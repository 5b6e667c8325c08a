import AbilityScript.Proofs.Builtin.CompiledCalls
import AbilityScript.Proofs.CallWriting
import AbilityScript.Proofs.Enrolment
import AbilityScript.Proofs.LineOutcome

namespace AbilityScript

open Text

namespace WorldChange

def ticks : WorldChange → Nat
  | advance n => n
  | _ => 0

def advances (changes : List WorldChange) : Nat :=
  (changes.map ticks).sum

theorem advances_cons (change : WorldChange) (changes : List WorldChange) :
    advances (change :: changes) = change.ticks + advances changes :=
  List.sum_cons

/-- What the clock of a new world shows after changes: the last time that was set and the advances
since, or all advances if none was set. -/
inductive Shows : List WorldChange → Nat → Prop
  | neverSet {changes : List WorldChange} (unset : ∀ t, setTime t ∉ changes) :
      Shows changes (advances changes)
  | lastSet {before since : List WorldChange} {t : Nat} (unset : ∀ t, setTime t ∉ since) :
      Shows (before ++ setTime t :: since) (t + advances since)

def totalAfter : WorldChange → Nat → Nat
  | setTime t, _ => t
  | advance n, total => total + n
  | strike _, total => total

def total (changes : List WorldChange) (start : Nat) : Nat :=
  changes.foldl (fun total change => change.totalAfter total) start

def applyAll (changes : List WorldChange) (w : World) : World :=
  changes.foldl (fun w change => change.apply w) w

theorem total_of_unset {changes : List WorldChange} (unset : ∀ t, setTime t ∉ changes)
    (start : Nat) : total changes start = start + advances changes := by
  induction changes generalizing start with
  | nil => rfl
  | cons change changes ih =>
    have hlater := ih (fun t ht => unset t (List.mem_cons_of_mem _ ht)) (change.totalAfter start)
    have hchange : change.totalAfter start = start + change.ticks := by
      cases change with
      | setTime t => exact absurd List.mem_cons_self (unset t)
      | advance n => rfl
      | strike location => rfl
    calc total (change :: changes) start
        = change.totalAfter start + advances changes := hlater
      _ = start + advances (change :: changes) := by
          rw [hchange, advances_cons, Nat.add_assoc]

theorem Shows.total_eq {changes : List WorldChange} {clock : Nat} (h : Shows changes clock) :
    total changes 0 = clock := by
  cases h with
  | neverSet unset =>
    rw [total_of_unset unset]
    exact Nat.zero_add _
  | @lastSet before since t unset =>
    have hsplit : total (before ++ setTime t :: since) 0 = total since t := List.foldl_append
    rw [hsplit, total_of_unset unset]

/-- The clock is a machine word, which holds the running total up to multiples of its size. -/
theorem fullTime_applyAll (changes : List WorldChange) {w : World} {start : Nat}
    (h : w.fullTime = start % UInt64.size) :
    (applyAll changes w).fullTime = total changes start % UInt64.size := by
  induction changes generalizing w start with
  | nil => exact h
  | cons change changes ih =>
    have hstep : (change.apply w).fullTime = change.totalAfter start % UInt64.size := by
      cases change with
      | setTime t => exact World.fullTime_setTime t w
      | advance n => rw [apply, World.fullTime_advance, h, Nat.mod_add_mod, totalAfter]
      | strike location => exact (World.fullTime_strike location w).trans h
    exact ih hstep

/-- The full time of a world is what its clock shows, while that is a machine word. -/
theorem Shows.fullTime_eq {changes : List WorldChange} {clock : Nat} (h : Shows changes clock)
    (hlt : clock < 2 ^ 64) (name : String) : (applyAll changes (.new name)).fullTime = clock := by
  have hnew : (World.new name).fullTime = 0 % UInt64.size := World.fullTime_new name
  have hword : clock < UInt64.size := hlt
  rw [fullTime_applyAll changes hnew, h.total_eq, Nat.mod_eq_of_lt hword]

theorem exists_shows (changes : List WorldChange) : ∃ clock, Shows changes clock := by
  induction changes with
  | nil => exact ⟨_, .neverSet (by simp)⟩
  | cons change changes ih =>
    obtain ⟨clock, hshows⟩ := ih
    cases hshows with
    | @lastSet before since t unset =>
      have hlater : Shows ((change :: before) ++ setTime t :: since) (t + advances since) :=
        .lastSet unset
      exact ⟨_, hlater⟩
    | neverSet unset =>
      by_cases hset : ∃ t, change = setTime t
      · obtain ⟨t, rfl⟩ := hset
        have hfirst : Shows ([] ++ setTime t :: changes) (t + advances changes) := .lastSet unset
        exact ⟨_, hfirst⟩
      · refine ⟨_, .neverSet fun t ht => ?_⟩
        rcases List.mem_cons.1 ht with hnow | hlater
        · exact hset ⟨t, hnow.symm⟩
        · exact unset t hlater

/-- The clock shows one time, whatever the changes. -/
theorem existsUnique_shows (changes : List WorldChange) : ∃! clock, Shows changes clock := by
  obtain ⟨clock, hshows⟩ := exists_shows changes
  refine ⟨clock, hshows, fun other hother => ?_⟩
  rw [← hother.total_eq, hshows.total_eq]

end WorldChange

namespace TimeOfDay

/-- The ticks of a day in which it is that part of the day: the first of them, and the first that is
no more. -/
def span : TimeOfDay → Nat × Nat
  | sunrise => (23000, 24000)
  | day => (0, 12000)
  | sunset => (12000, 13000)
  | night => (13000, 23000)

def Covers (time : TimeOfDay) (clock : Nat) : Prop :=
  time.span.1 ≤ clock % 24000 ∧ clock % 24000 < time.span.2

instance (time : TimeOfDay) (clock : Nat) : Decidable (time.Covers clock) :=
  inferInstanceAs (Decidable (_ ∧ _))

theorem covers_ofTicks (clock : Nat) : (ofTicks clock).Covers clock := by
  have hlt : clock % 24000 < 24000 := Nat.mod_lt _ (by decide)
  unfold ofTicks
  dsimp only [dayLength]
  split_ifs with hday hsunset hnight
  · exact ⟨Nat.zero_le _, hday⟩
  · exact ⟨Nat.not_lt.1 hday, hsunset⟩
  · exact ⟨Nat.not_lt.1 hsunset, hnight⟩
  · exact ⟨Nat.not_lt.1 hnight, hlt⟩

/-- The spans have no tick in common. -/
theorem Covers.unique {time time' : TimeOfDay} {clock : Nat} (h : time.Covers clock)
    (h' : time'.Covers clock) : time = time' := by
  cases time <;> cases time' <;> simp only [Covers, span] at h h' <;> first | rfl | omega

theorem ofTicks_eq_iff (clock : Nat) (time : TimeOfDay) :
    ofTicks clock = time ↔ time.Covers clock :=
  ⟨fun h => h ▸ covers_ofTicks clock, (covers_ofTicks clock).unique⟩

/-- At any time it is one part of the day and no other. -/
theorem existsUnique_covers (clock : Nat) : ∃! time : TimeOfDay, time.Covers clock :=
  ⟨ofTicks clock, covers_ofTicks clock, fun _ h => h.unique (covers_ofTicks clock)⟩

/-- Whole days later it is the same part of the day. -/
theorem covers_add_days (time : TimeOfDay) (clock days : Nat) :
    time.Covers (clock + 24000 * days) ↔ time.Covers clock := by
  rw [Covers, Covers, Nat.add_mul_mod_self_left]

theorem timeOfDay_eq_iff (w : World) (time : TimeOfDay) :
    w.timeOfDay = time ↔ time.Covers w.fullTime := by
  rw [World.timeOfDay, ofTicks_eq_iff, Covers, World.time, dayLength, Nat.mod_mod]
  rfl

def vocabulary : List (String × TimeOfDay) :=
  [("sunrise", sunrise), ("dawn", sunrise), ("day", day), ("noon", day), ("midday", day),
    ("sunset", sunset), ("dusk", sunset), ("night", night), ("midnight", night)]

theorem mem_vocabulary_iff (word : String) (time : TimeOfDay) :
    (word, time) ∈ vocabulary ↔ word ∈ time.words := by
  cases time <;> simp [vocabulary, words]

theorem lower_of_mem_vocabulary {word : String} {time : TimeOfDay}
    (h : (word, time) ∈ vocabulary) : lower word = word := by
  have hsmall : ∀ entry ∈ vocabulary, lower entry.1 = entry.1 := by decide
  exact hsmall (word, time) h

/-- A text is read as a part of the day just if it is a word for it, up to case. -/
theorem ofWord?_eq_some_iff (text : String) (time : TimeOfDay) :
    ofWord? text = some time ↔
      ∃ word, (word, time) ∈ vocabulary ∧ sameLetters word text = true := by
  -- No word stands for two parts, so the first part that lists it is the only one.
  have hfirst : ∀ word ∈ time.words, (all.find? fun t => t.words.contains word) = some time := by
    cases time <;> decide
  constructor
  · intro h
    have hword : lower text ∈ time.words := by simpa using List.find?_some h
    have hentry := (mem_vocabulary_iff _ time).2 hword
    exact ⟨lower text, hentry, (sameLetters_iff _ _).2 (lower_of_mem_vocabulary hentry)⟩
  · rintro ⟨word, hword, hsame⟩
    rw [sameLetters_iff, lower_of_mem_vocabulary hword] at hsame
    rw [ofWord?, ← hsame]
    exact hfirst word ((mem_vocabulary_iff word time).1 hword)

end TimeOfDay

namespace Builtin

theorem resolve_isTime (token : String) (a : Arguments) :
    Arguments.resolve isTime.schema [token] = .ok a ↔
      ∃ time, TimeOfDay.ofWord? token = some time ∧
        a = ⟨[.member (TimeOfDay.enumeration.value time)]⟩ := by
  have hschema : isTime.schema = [.manual "time of day" fun raw =>
      (TimeOfDay.ofWord? raw).map fun time =>
        .member (TimeOfDay.enumeration.value time)] := rfl
  rw [Arguments.resolve_eq_ok_iff_values, hschema]
  simp only [Arguments.resolveFrom_cons_eq_ok_iff, Arguments.resolveFrom_nil,
    Schema.read_eq_ok_iff, Schema.convert?, Schema.refuses, Option.map_eq_some_iff]
  constructor
  · rintro ⟨_, _, ⟨⟨time, htime, rfl⟩, -⟩, ⟨⟩, hvalues⟩
    exact ⟨time, htime, congrArg Arguments.mk hvalues⟩
  · rintro ⟨time, htime, rfl⟩
    exact ⟨_, _, ⟨⟨time, htime, rfl⟩, trivial⟩, rfl, rfl⟩

/-- The line that asks for a part of the day compiles just if its text, trimmed, is a word for one,
and then asks for that part. -/
theorem isTime_line {r : Registry} (hfind : r.condition? "istime" = some isTime) {text : String}
    (plain : ∀ c ∈ text.toList, c ≠ ',' ∧ Call.isBodyChar c = true)
    (call : ConditionCall Ability) :
    Compile.conditionLine r ("istime(" ++ text ++ ")") = .ok call ↔
      ∃ word time, (word, time) ∈ TimeOfDay.vocabulary ∧ sameLetters word (trim text) = true ∧
        call = ⟨isTime, ⟨[.member (TimeOfDay.enumeration.value time)]⟩⟩ := by
  have hword : ∀ c ∈ "istime".toList, isWordChar c = true := List.all_eq_true.1 rfl
  have hparse := Call.parse?_lone (by decide : "istime" ≠ "") hword plain
  have hline : "istime" ++ "(" ++ text ++ ")" = "istime(" ++ text ++ ")" := by
    apply String.toList_inj.1
    simp
  rw [hline] at hparse
  by_cases hblank : trim text = ""
  -- A blank text gives no token at all, and is no word either.
  · rw [if_pos hblank] at hparse
    have herror : Compile.conditionLine r ("istime(" ++ text ++ ")") =
        .error (.argumentCount "istime" 1 0) := by
      simp only [Compile.conditionLine, Compile.line, hparse, hfind]
      rfl
    have hnone : ∀ entry ∈ TimeOfDay.vocabulary, sameLetters entry.1 "" = false := by decide
    constructor
    · intro h
      rw [herror] at h
      cases h
    · rintro ⟨word, time, hentry, hsame, -⟩
      rw [hblank, hnone (word, time) hentry] at hsame
      cases hsame
  · rw [if_neg hblank] at hparse
    obtain ⟨hok, -⟩ := Compile.conditionLine_of_parse? hparse hfind rfl
    rw [hok]
    simp only [resolve_isTime, TimeOfDay.ofWord?_eq_some_iff]
    constructor
    · rintro ⟨_, ⟨time, ⟨word, hentry, hsame⟩, rfl⟩, rfl⟩
      exact ⟨word, time, hentry, hsame, rfl⟩
    · rintro ⟨word, time, hentry, hsame, rfl⟩
      exact ⟨_, ⟨time, ⟨word, hentry, hsame⟩, rfl⟩, rfl⟩

/-- A call that asks for a part of the day is answered by the clock of the world. -/
theorem testCondition_isTime (time : TimeOfDay) (thread : Thread) (context : Context)
    (s : Simulation) :
    (s.testCondition thread ⟨isTime, ⟨[.member (TimeOfDay.enumeration.value time)]⟩⟩ context).1 =
        true ↔ time.Covers s.scene.world.fullTime := by
  have hanswer : (s.testCondition thread
      ⟨isTime, ⟨[.member (TimeOfDay.enumeration.value time)]⟩⟩ context).1 =
        (s.scene.world.timeOfDay == time) := by
    simp [Simulation.testCondition, isTime, member?_time]
  rw [hanswer, beq_iff_eq, TimeOfDay.timeOfDay_eq_iff]

/-- Whatever part of the day is asked for, whole days later the answer is the same. -/
theorem testCondition_isTime_advance_days (a : Arguments) (thread : Thread) (context : Context)
    {s : Simulation} {days : Nat} (h : s.scene.world.fullTime + 24000 * days < 2 ^ 64) :
    ((s.changeWorld (.advance (24000 * days))).testCondition thread ⟨isTime, a⟩ context).1 =
      (s.testCondition thread ⟨isTime, a⟩ context).1 := by
  have hclock : (s.changeWorld (.advance (24000 * days))).scene.world.fullTime =
      s.scene.world.fullTime + 24000 * days :=
    (World.fullTime_advance (24000 * days) s.scene.world).trans (Nat.mod_eq_of_lt h)
  have hpart : (s.changeWorld (.advance (24000 * days))).scene.world.timeOfDay =
      s.scene.world.timeOfDay := by
    rw [TimeOfDay.timeOfDay_eq_iff, hclock, TimeOfDay.covers_add_days]
    exact (TimeOfDay.timeOfDay_eq_iff _ _).1 rfl
  simp only [Simulation.testCondition, isTime, hpart]

end Builtin

/-- The condition for the part of the day and the clock. The line compiles just for nine words, in
any case of letters and with blanks around them; what it asks is then true in a world whose clock
was set and advanced any number of times just while the clock, within its day, is in the span of the
word. At any time one of the four spans has the clock and no other, and a clock that is some days
later gives the same answers. The clock is a machine word, and what it is to show has to be one. -/
theorem istime_tells_the_clock (later : List Enrolment) :
    let r := Registry.enrolAll (.builtins :: later)
    (∀ text : String, (∀ c ∈ text.toList, c ≠ ',' ∧ c ≠ '(' ∧ c ≠ ')') →
      let line := "istime(" ++ text ++ ")"
      ((∃ call, Compile.conditionLine r line = .ok call) ↔
        ∃ word time, (word, time) ∈ TimeOfDay.vocabulary ∧
          sameLetters word (trim text) = true) ∧
      ∀ call word time, Compile.conditionLine r line = .ok call →
        (word, time) ∈ TimeOfDay.vocabulary → sameLetters word (trim text) = true →
        ∀ name changes clock, WorldChange.Shows changes clock → clock < 2 ^ 64 → ∀ s : Simulation,
          s.scene.world = WorldChange.applyAll changes (.new name) → ∀ thread context,
            ((s.testCondition thread call context).1 = true ↔ time.Covers clock)) ∧
    (∀ changes, ∃! clock, WorldChange.Shows changes clock) ∧
    (∀ clock, ∃! time : TimeOfDay, time.Covers clock) ∧
    ∀ (a : Arguments) (s : Simulation) days thread context,
      s.scene.world.fullTime + 24000 * days < 2 ^ 64 →
      ((s.changeWorld (.advance (24000 * days))).testCondition thread
          ⟨Builtin.isTime, a⟩ context).1 =
        (s.testCondition thread ⟨Builtin.isTime, a⟩ context).1 := by
  intro r
  have hfind : r.condition? "istime" = some Builtin.isTime :=
    (Registry.finds_of_append [.builtins] later "istime").2 Builtin.isTime rfl
  refine ⟨fun text hplain => ?_, WorldChange.existsUnique_shows, TimeOfDay.existsUnique_covers,
    fun a s days thread context => Builtin.testCondition_isTime_advance_days a thread context⟩
  have hbody : ∀ c ∈ text.toList, c ≠ ',' ∧ Call.isBodyChar c = true := by
    intro c hc
    obtain ⟨hcomma, hopen, hclose⟩ := hplain c hc
    exact ⟨hcomma, by simp [Call.isBodyChar, hopen, hclose]⟩
  have hline := Builtin.isTime_line hfind hbody
  refine ⟨?_, ?_⟩
  · constructor
    · rintro ⟨call, hcall⟩
      obtain ⟨word, time, hentry, hsame, -⟩ := (hline call).1 hcall
      exact ⟨word, time, hentry, hsame⟩
    · rintro ⟨word, time, hentry, hsame⟩
      exact ⟨_, (hline _).2 ⟨word, time, hentry, hsame, rfl⟩⟩
  · intro call word time hcall hentry hsame name changes clock hshows hlt s hworld thread context
    obtain ⟨word', time', hentry', hsame', rfl⟩ := (hline call).1 hcall
    -- A text is a word for one part of the day only.
    obtain rfl : time = time' := Option.some.inj
      (((TimeOfDay.ofWord?_eq_some_iff _ _).2 ⟨word, hentry, hsame⟩).symm.trans
        ((TimeOfDay.ofWord?_eq_some_iff _ _).2 ⟨word', hentry', hsame'⟩))
    rw [Builtin.testCondition_isTime, hworld, hshows.fullTime_eq hlt]

/-- The last tick of a sunset, asked for by another word in another case, and three days later. -/
theorem istime_tells_the_clock_dusk :
    let r := Registry.enrolAll [.builtins]
    let changes : List WorldChange := [.advance 7, .setTime 35000, .advance 1999]
    let s := Simulation.new (.ofList [] (WorldChange.applyAll changes (.new "home")))
    (∀ c ∈ " DusK ".toList, c ≠ ',' ∧ c ≠ '(' ∧ c ≠ ')') ∧
    WorldChange.Shows changes 36999 ∧
    s.scene.world.fullTime + 24000 * 3 < 2 ^ 64 ∧
    ∃ call, Compile.conditionLine r ("istime(" ++ " DusK " ++ ")") = .ok call ∧
      ∀ thread context, (s.testCondition thread call context).1 = true ∧
        ∀ a, ((s.changeWorld (.advance (24000 * 3))).testCondition thread
            ⟨Builtin.isTime, a⟩ context).1 =
          (s.testCondition thread ⟨Builtin.isTime, a⟩ context).1 := by
  intro r changes s
  have hplain : ∀ c ∈ " DusK ".toList, c ≠ ',' ∧ c ≠ '(' ∧ c ≠ ')' := by
    have hall : (" DusK ".toList.all fun c => c != ',' && (c != '(' && c != ')')) = true := rfl
    simpa only [List.all_eq_true, Bool.and_eq_true, bne_iff_ne] using hall
  have hunset : ∀ t, WorldChange.setTime t ∉ [WorldChange.advance 1999] := by
    intro t ht
    cases List.mem_singleton.1 ht
  have hshows : WorldChange.Shows ([.advance 7] ++ .setTime 35000 :: [.advance 1999])
      (35000 + WorldChange.advances [.advance 1999]) := .lastSet hunset
  have hentry : ("dusk", TimeOfDay.sunset) ∈ TimeOfDay.vocabulary := by decide
  have hsame : sameLetters "dusk" (trim " DusK ") = true := by decide
  have hword : s.scene.world.fullTime + 24000 * 3 < 2 ^ 64 := by decide
  obtain ⟨hlines, -, -, hdays⟩ := istime_tells_the_clock []
  obtain ⟨hcompiles, hanswers⟩ := hlines " DusK " hplain
  obtain ⟨call, hcall⟩ := hcompiles.2 ⟨"dusk", .sunset, hentry, hsame⟩
  refine ⟨hplain, hshows, hword, call, hcall, fun thread context =>
    ⟨?_, fun a => hdays a s 3 thread context hword⟩⟩
  have hanswer := hanswers call "dusk" .sunset hcall hentry hsame "home" changes 36999 hshows
    (by decide) s rfl thread context
  exact hanswer.2 (by decide)

end AbilityScript
