import AbilityScript.Builtin.Conditions
import AbilityScript.Proofs.ArgumentTyping
import AbilityScript.Proofs.Number.Sign

namespace AbilityScript.Builtin

open Number

def Subject (context : Context) (a : Arguments) (id : EntityId) : Prop :=
  ∃ t, a.targeter? 0 = some t ∧ context.entity? t = some id

inductive Does (context : Context) (scene : Scene) : KeywordCall Ability → Effect Ability → Prop
  | damage {a id x} : Subject context a id → a.double? 1 = some x →
      Does context scene ⟨damage, a⟩ (.onEntity id (.damage x))
  | heal {a id x} : Subject context a id → a.double? 1 = some x →
      Does context scene ⟨heal, a⟩ (.onEntity id (.heal x))
  | setHealth {a id x} : Subject context a id → a.double? 1 = some x →
      Does context scene ⟨setHealth, a⟩ (.onEntity id (.setHealth x))
  | healPercent {a id x} : Subject context a id → a.double? 1 = some x →
      Does context scene ⟨healPercent, a⟩
        (.onEntity id (.setHealth ((scene.entity id).health + (scene.entity id).percentOfMax x)))
  | damagePercent {a id x} : Subject context a id → a.double? 1 = some x →
      Does context scene ⟨damagePercent, a⟩
        (.onEntity id (.damage ((scene.entity id).percentOfMax x)))
  | kindle {a id} {ticks : UInt32} : Subject context a id → a.whole? 1 = some (ticks.toNat : Int) →
      Does context scene ⟨kindle, a⟩ (.onEntity id (.setFireTicks ticks))
  | feed {a id} {food : Whole .integer} {saturation} : Subject context a id →
      a.whole? 1 = some food.val → a.double? 2 = some saturation →
      Does context scene ⟨feed, a⟩ (.onEntity id (.feed food.val saturation.convert))
  | effect {a id kind} {duration level : UInt32} : Subject context a id →
      a.member? PotionKind.enumeration 1 = some kind → a.whole? 2 = some (duration.toNat : Int) →
      a.whole? 3 = some (level.toNat : Int) →
      Does context scene ⟨effect, a⟩ (.onEntity id (.addEffect ⟨kind, duration, level⟩))
  | lightning {a t location} : a.targeter? 0 = some t → context.location? scene t = some location →
      Does context scene ⟨lightning, a⟩ (.onWorld (.strike location))
  | message {a id text} : Subject context a id → a.string? 1 = some text →
      Does context scene ⟨message, a⟩ (.onEntity id (.sendMessage text))

inductive Answers (context : Context) (scene : Scene) : ConditionCall Ability → Bool → Prop
  | isTime {a time} : a.member? TimeOfDay.enumeration 0 = some time →
      Answers context scene ⟨isTime, a⟩ (decide (scene.world.timeOfDay = time))
  | isBurning {a id} : Subject context a id →
      Answers context scene ⟨isBurning, a⟩ (decide (0 < (scene.entity id).fireTicks))
  | healthAbove {a id threshold} : Subject context a id → a.double? 1 = some threshold →
      Answers context scene ⟨healthAbove, a⟩ (threshold.lt (scene.entity id).health)

theorem isNonNegative_whole {w : Width} (n : Whole w) :
    isNonNegative (.whole w n) = (0 : Binary64).le (.ofInt n.val) := rfl

/-- A whole number that fits the integer width and is from zero on is a count. -/
theorem count?_of_nonNegative {n : Whole .integer} (h : isNonNegative (.whole .integer n) = true) :
    ∃ count : UInt32, (count.toNat : Int) = n.val ∧ count? n.val = some count := by
  rw [isNonNegative_whole, Binary.zero_le_ofInt_iff] at h
  have hbound : n.val < UInt32.size := by
    have hholds := n.property.2
    simp only [Width.bits, UInt32.size] at hholds ⊢
    omega
  refine ⟨UInt32.ofNat n.val.toNat, ?_, by simp only [count?, h, hbound, and_self, if_true]⟩
  rw [UInt32.toNat_ofNat_of_lt' (by omega)]
  omega

/-- A typed argument from zero on is a count, and stands at its place as that count. -/
theorem count_of_typed {schemas : List Schema} {a : Arguments} {i : Nat} {label : String}
    (h : a.Typed schemas) (hs : schemas[i]? = some (nonNegative (.whole .integer) label)) :
    ∃ count : UInt32, a.whole? i = some (count.toNat : Int) ∧
      (a.whole? i).bind count? = some count := by
  obtain ⟨n, hn, haccepts⟩ := h.whole? hs
  obtain ⟨count, hcount, hread⟩ := count?_of_nonNegative (by simpa using haccepts)
  exact ⟨count, by rw [hn, hcount], by rw [hn]; exact hread⟩

/-- A keyword with a living subject has one effect, on that subject. -/
theorem body_onTarget {name : String} {others : List Schema}
    {change : Arguments → Entity → Option EntityChange} {context : Context} {a : Arguments}
    {scene : Scene} {id : EntityId} {c : EntityChange} (hs : Subject context a id)
    (hc : change a (scene.entity id) = some c) :
    (onTarget name others change).body context a scene = [.onEntity id c] := by
  obtain ⟨t, ht, hid⟩ := hs
  simp [onTarget, target, ht, hid, hc]

/-- A condition on a living subject answers for that subject, and leaves no notice. -/
theorem body_ofTarget {name : String} {others : List Schema} {holds : Arguments → Entity → Bool}
    {context : Context} {a : Arguments} {scene : Scene} {id : EntityId}
    (hs : Subject context a id) :
    (ofTarget name others holds).body context a scene = (holds a (scene.entity id), []) := by
  obtain ⟨t, ht, hid⟩ := hs
  simp [ofTarget, target, ht, hid]

def SubjectsPresent (context : Context) (a : Arguments) : Prop :=
  ∀ t, Value.targeter t ∈ a.values →
    (∀ scene, (context.location? scene t).isSome) ∧ (t ≠ .block → (context.entity? t).isSome)

theorem mem_values_of_targeter? {a : Arguments} {i : Nat} {t : Targeter}
    (h : a.targeter? i = some t) : Value.targeter t ∈ a.values := by
  obtain ⟨v, hv, hread⟩ := Option.bind_eq_some_iff.1 h
  cases v <;> simp [Value.asTargeter?] at hread
  exact hread ▸ List.mem_of_getElem? hv

/-- A first argument that cannot be a block names a living subject. -/
theorem subject_of_typed {schemas : List Schema} {a : Arguments} {allowed : Capabilities}
    {context : Context} (h : a.Typed schemas) (hs : schemas[0]? = some (.targeter allowed))
    (hliving : allowed.has .block = false) (hpresent : SubjectsPresent context a) :
    ∃ id, Subject context a id := by
  obtain ⟨t, ht, hallowed⟩ := h.targeter? hs
  have hblock : t ≠ .block := by
    rintro rfl
    rw [hliving] at hallowed
    cases hallowed
  obtain ⟨id, hid⟩ := Option.isSome_iff_exists.1
    ((hpresent t (mem_values_of_targeter? ht)).2 hblock)
  exact ⟨id, t, ht, hid⟩

/-- Arguments that are a living subject and a number are there as such. -/
theorem subject_and_number_of_typed {a : Arguments} {accepts : Option (Value → Bool)}
    {label : Option String} {context : Context}
    (h : a.Typed [livingTarget, .primitive .double accepts label])
    (hpresent : SubjectsPresent context a) :
    ∃ id x, Subject context a id ∧ a.double? 1 = some x := by
  obtain ⟨id, hs⟩ := subject_of_typed h rfl rfl hpresent
  obtain ⟨x, hx, -⟩ := h.double? (i := 1) rfl
  exact ⟨id, x, hs, hx⟩

/-- A typed call of a built-in keyword whose subject is present does its one effect and nothing
else. -/
theorem body_eq_of_typed {context : Context} {scene : Scene} {k : Keyword Ability} {a : Arguments}
    (hk : k ∈ keywords) (h : a.Typed k.schema) (hpresent : SubjectsPresent context a) :
    ∃ effect, Does context scene ⟨k, a⟩ effect ∧ k.body context a scene = [effect] := by
  simp only [keywords, List.mem_cons, List.not_mem_nil, or_false] at hk
  -- The first five take a living subject and a number.
  rcases hk with rfl | rfl | rfl | rfl | rfl | rfl | rfl | rfl | rfl | rfl
  · obtain ⟨id, x, hs, hx⟩ := subject_and_number_of_typed h hpresent
    exact ⟨_, .damage hs hx, body_onTarget hs (by simp [hx])⟩
  · obtain ⟨id, x, hs, hx⟩ := subject_and_number_of_typed h hpresent
    exact ⟨_, .heal hs hx, body_onTarget hs (by simp [hx])⟩
  · obtain ⟨id, x, hs, hx⟩ := subject_and_number_of_typed h hpresent
    exact ⟨_, .setHealth hs hx, body_onTarget hs (by simp [hx])⟩
  · obtain ⟨id, x, hs, hx⟩ := subject_and_number_of_typed h hpresent
    exact ⟨_, .healPercent hs hx, body_onTarget hs (by simp [hx])⟩
  · obtain ⟨id, x, hs, hx⟩ := subject_and_number_of_typed h hpresent
    exact ⟨_, .damagePercent hs hx, body_onTarget hs (by simp [hx])⟩
  · obtain ⟨id, hs⟩ := subject_of_typed h rfl rfl hpresent
    -- The schema refuses numbers below zero, so the conversion to a count does not fail.
    obtain ⟨ticks, hticks, hcount⟩ := count_of_typed (i := 1) h rfl
    exact ⟨_, .kindle hs hticks, body_onTarget hs (by simp [hcount])⟩
  · obtain ⟨id, hs⟩ := subject_of_typed h rfl rfl hpresent
    obtain ⟨food, hfood, -⟩ := h.whole? (i := 1) rfl
    obtain ⟨saturation, hsaturation, -⟩ := h.double? (i := 2) rfl
    refine ⟨_, .feed hs hfood hsaturation, ?_⟩
    obtain ⟨t, ht, hid⟩ := hs
    simp [feed, onTarget, target, ht, hid, hfood, hsaturation, food.property]
  · obtain ⟨id, hs⟩ := subject_of_typed h rfl rfl hpresent
    obtain ⟨kind, -, hkind⟩ := h.member? (i := 1) (e := PotionKind.enumeration) rfl
    obtain ⟨duration, hduration, hcount⟩ := count_of_typed (i := 2) h rfl
    obtain ⟨level, hlevel, hcount'⟩ := count_of_typed (i := 3) h rfl
    refine ⟨_, .effect hs hkind hduration hlevel, body_onTarget hs ?_⟩
    simp [hkind, hcount, hcount']
  -- Lightning asks for a place only, so its subject may be a block.
  · obtain ⟨t, ht, -⟩ := h.targeter? (i := 0) rfl
    obtain ⟨location, hlocation⟩ := Option.isSome_iff_exists.1
      ((hpresent t (mem_values_of_targeter? ht)).1 scene)
    exact ⟨_, .lightning ht hlocation, by simp [lightning, ht, hlocation]⟩
  · obtain ⟨id, hs⟩ := subject_of_typed h rfl rfl hpresent
    obtain ⟨text, htext⟩ := h.string? (i := 1) rfl
    refine ⟨_, .message hs htext, ?_⟩
    obtain ⟨t, ht, hid⟩ := hs
    simp [message, onTarget, target, ht, hid, htext]

/-- A text read as a part of the day is stored as the value of that part. -/
theorem member?_isTime {a : Arguments} (h : a.Typed isTime.schema) :
    ∃ time, a.member? TimeOfDay.enumeration 0 = some time := by
  obtain ⟨v, hv, text, htext⟩ := h.get? (i := 0) rfl
  obtain ⟨time, -, rfl⟩ := Option.map_eq_some_iff.1 htext
  obtain ⟨first, -, hread, -⟩ := TimeOfDay.enumeration.read?_value (m := time)
    (by cases time <;> decide)
  exact ⟨first, by simp [Arguments.member?, hv, Value.asMember?, hread]⟩

/-- A typed call of a built-in condition whose subject is present answers its question and leaves
no notice. -/
theorem answer_eq_of_typed {context : Context} {scene : Scene} {k : Condition Ability}
    {a : Arguments} (hk : k ∈ conditions) (h : a.Typed k.schema)
    (hpresent : SubjectsPresent context a) :
    ∃ answer, Answers context scene ⟨k, a⟩ answer ∧ k.body context a scene = (answer, []) := by
  simp only [conditions, List.mem_cons, List.not_mem_nil, or_false] at hk
  rcases hk with rfl | rfl | rfl
  · obtain ⟨time, htime⟩ := member?_isTime h
    refine ⟨_, .isTime htime, ?_⟩
    simp [isTime, htime, beq_eq_decide]
  · obtain ⟨id, hs⟩ := subject_of_typed h rfl rfl hpresent
    exact ⟨_, .isBurning hs, body_ofTarget hs⟩
  · obtain ⟨id, hs⟩ := subject_of_typed h rfl rfl hpresent
    obtain ⟨threshold, hthreshold, -⟩ := h.double? (i := 1) rfl
    refine ⟨_, .healthAbove hs hthreshold, (body_ofTarget hs).trans ?_⟩
    simp [hthreshold]

end AbilityScript.Builtin
