import AbilityScript.Proofs.Resolution

namespace AbilityScript

open Text

namespace Targeter

def documented : List (String × Targeter) :=
  [("?player", player), ("@player", player), ("player", player), ("self", player),
    ("@self", player), ("?entity", entity), ("@entity", entity), ("entity", entity),
    ("?target", entity), ("@target", entity), ("target", entity), ("?block", block),
    ("@block", block), ("block", block)]

def Spelled (text : String) (t : Targeter) : Prop :=
  ∃ spelling, (spelling, t) ∈ documented ∧ sameLetters spelling (trim text) = true

/-- The text is `self` with a question mark, up to case and blanks, which is not documented. -/
def MarkedSelf (text : String) : Prop :=
  sameLetters "?self" (trim text) = true

def marked (t : Targeter) : List String :=
  t.words.flatMap fun word => [word, "?" ++ word, "@" ++ word]

theorem mem_marked_iff (spelling : String) (t : Targeter) :
    spelling ∈ t.marked ↔ (spelling, t) ∈ documented ∨ spelling = "?self" ∧ t = player := by
  cases t with
  | player =>
    simp [marked, words, documented]
    tauto
  | entity =>
    simp [marked, words, documented]
    tauto
  | block =>
    simp [marked, words, documented]
    tauto

theorem lower_of_mem_marked {spelling : String} {t : Targeter} (h : spelling ∈ t.marked) :
    lower spelling = spelling := by
  have hsmall : ∀ t ∈ all, ∀ spelling ∈ t.marked, lower spelling = spelling := by decide
  exact hsmall t t.mem_all spelling h

theorem lower_mem_marked_iff (text : String) (t : Targeter) :
    lower (trim text) ∈ t.marked ↔ t.Spelled text ∨ MarkedSelf text ∧ t = player := by
  have hself : MarkedSelf text ↔ lower (trim text) = "?self" := by
    have hsmall : lower "?self" = "?self" := by decide
    rw [MarkedSelf, sameLetters_iff, hsmall, eq_comm]
  rw [hself]
  constructor
  · intro h
    refine ((mem_marked_iff _ t).1 h).imp_left fun listed => ⟨_, listed, ?_⟩
    exact (sameLetters_iff _ _).2 (lower_of_mem_marked h)
  · rintro (⟨spelling, listed, same⟩ | hplayer)
    · have hmarked : spelling ∈ t.marked := (mem_marked_iff spelling t).2 (.inl listed)
      rw [sameLetters_iff, lower_of_mem_marked hmarked] at same
      exact same ▸ hmarked
    · exact (mem_marked_iff _ t).2 (.inr hplayer)

theorem not_spelled_of_markedSelf {text : String} (h : MarkedSelf text) (t : Targeter) :
    ¬ t.Spelled text := by
  rintro ⟨spelling, listed, same⟩
  have hnone : ∀ entry ∈ documented, lower entry.1 ≠ lower "?self" := by decide
  refine hnone _ listed ?_
  rw [(sameLetters_iff _ _).1 same, (sameLetters_iff _ _).1 h]

/-- Without its mark a text is a word just if it is that word, bare or with either mark; only one
mark is dropped, so none may be left. -/
theorem dropMark_eq_iff {word : List Char} (h : word.head? ≠ some '?' ∧ word.head? ≠ some '@')
    (cs : List Char) :
    dropMark cs = word ↔ cs = word ∨ cs = '?' :: word ∨ cs = '@' :: word := by
  unfold dropMark
  split
  case h_1 rest =>
    have hbare : '?' :: rest ≠ word := fun heq => h.1 (heq ▸ rfl)
    simp [hbare]
  case h_2 rest =>
    have hbare : '@' :: rest ≠ word := fun heq => h.2 (heq ▸ rfl)
    simp [hbare]
  case h_3 hquestion hat =>
    have hmarked : cs ≠ '?' :: word ∧ cs ≠ '@' :: word := ⟨hquestion word, hat word⟩
    simp [hmarked]

/-- A text is read as a targeter just if it is spelled as documented, and as the player, too, if it
is `self` with a question mark. -/
theorem ofText?_eq_some_iff (text : String) (t : Targeter) :
    ofText? text = some t ↔ t.Spelled text ∨ MarkedSelf text ∧ t = player := by
  -- No word stands for two targeters, so the first that has it is the only one.
  have hfirst : ∀ t ∈ all, ∀ word ∈ t.words,
      (all.find? fun other => other.words.contains word) = some t := by decide
  have hplain : ∀ t ∈ all, ∀ word ∈ t.words,
      word.toList.head? ≠ some '?' ∧ word.toList.head? ≠ some '@' := by decide
  let bare := String.ofList (dropMark (lower (trim text)).toList)
  have hofText : ofText? text = all.find? fun other => other.words.contains bare := by
    simp only [ofText?, bare, toList_lower, toList_trim]
  have hreads : ofText? text = some t ↔ bare ∈ t.words := by
    rw [hofText]
    constructor
    · intro h
      simpa using List.find?_some h
    · exact hfirst t t.mem_all bare
  have hmarks : ∀ word ∈ t.words,
      (bare = word ↔ lower (trim text) ∈ [word, "?" ++ word, "@" ++ word]) := by
    intro word hword
    rw [← String.toList_inj, String.toList_ofList, dropMark_eq_iff (hplain t t.mem_all word hword)]
    simp [← String.toList_inj]
  rw [hreads, ← lower_mem_marked_iff, marked, List.mem_flatMap]
  constructor
  · intro h
    exact ⟨bare, h, (hmarks bare h).1 rfl⟩
  · rintro ⟨word, hword, h⟩
    exact (hmarks word hword).2 h ▸ hword

theorem ofText?_of_markedSelf {text : String} (h : MarkedSelf text) :
    ofText? text = some player :=
  (ofText?_eq_some_iff text player).2 (.inr ⟨h, rfl⟩)

/-- The readings of a text are the documented ones, unless it is `self` with a question mark. -/
theorem ofText?_as_documented_iff (text : String) :
    (∀ t, ofText? text = some t ↔ t.Spelled text) ↔ ¬ MarkedSelf text := by
  constructor
  · intro h hself
    exact not_spelled_of_markedSelf hself player ((h player).1 (ofText?_of_markedSelf hself))
  · intro hself t
    rw [ofText?_eq_some_iff, or_iff_left fun hplayer => hself hplayer.1]

/-- The documented spellings are not all that is read: the question mark is dropped before `self`,
too. -/
theorem documented_spellings_incomplete :
    ¬ ∀ text t, ofText? text = some t ↔ t.Spelled text := by
  intro h
  have hself : MarkedSelf "?self" := rfl
  exact not_spelled_of_markedSelf hself player ((h _ player).1 (ofText?_of_markedSelf hself))

theorem identifier_mem_documented (t : Targeter) : (t.identifier, t) ∈ documented := by
  cases t <;> decide

theorem spelled_identifier (t : Targeter) : t.Spelled t.identifier := by
  have htrim : trim t.identifier = t.identifier := by cases t <;> decide
  refine ⟨t.identifier, t.identifier_mem_documented, ?_⟩
  rw [htrim]
  exact sameLetters_refl t.identifier

end Targeter

theorem Capabilities.mem_toList_iff (s : Capabilities) (t : Targeter) : t ∈ s.toList ↔ t ∈ s := by
  simp [toList, t.mem_all]

theorem Schema.resolve_targeter_iff (allowed : Capabilities) (raw : String) (position : Nat)
    (v : Value) :
    (targeter allowed).resolve raw position = .ok v ↔
      ∃ t ∈ allowed, Targeter.ofText? raw = some t ∧ v = .targeter t := by
  rw [resolve_eq_ok_iff, read_eq_ok_iff]
  simp only [convert?, refuses, and_true, Option.map_eq_some_iff, Option.filter_eq_some_iff,
    Capabilities.mem_def]
  constructor
  · rintro ⟨t, ⟨hread, hallowed⟩, rfl⟩
    exact ⟨t, hallowed, hread, rfl⟩
  · rintro ⟨t, hallowed, hread, rfl⟩
    exact ⟨t, ⟨hread, hallowed⟩, rfl⟩

theorem Schema.resolve_targeter_identifier {allowed : Capabilities} {t : Targeter} (h : t ∈ allowed)
    (position : Nat) :
    (targeter allowed).resolve t.identifier position = .ok (.targeter t) :=
  (resolve_targeter_iff allowed _ position _).2
    ⟨t, h, (Targeter.ofText?_eq_some_iff _ t).2 (.inl t.spelled_identifier), rfl⟩

/-- A text is read as documented, unless it is `self` with a question mark, and so does a schema for
targeters take it, unless it is that and the schema allows the player. The error for a text that
the schema does not take lists the allowed targeters by their canonical spellings, which it does. -/
theorem targeters_read_as_documented_iff (text : String) (allowed : Capabilities)
    (position : Nat) :
    ((∀ t, Targeter.ofText? text = some t ↔ t.Spelled text) ↔ ¬ Targeter.MarkedSelf text) ∧
    ((∀ v, (Schema.targeter allowed).resolve text position = .ok v ↔
        ∃ t ∈ allowed, t.Spelled text ∧ v = .targeter t) ↔
      ¬ (Targeter.MarkedSelf text ∧ .player ∈ allowed)) ∧
    ∀ e, (Schema.targeter allowed).resolve text position = .error e →
      ∃ listed : List Targeter,
        e.expected = "targeter (" ++ ", ".intercalate (listed.map Targeter.identifier) ++ ")" ∧
        (∀ t, t ∈ listed ↔ t ∈ allowed) ∧
        ∀ t ∈ listed, (t.identifier, t) ∈ Targeter.documented ∧
          ∀ place, (Schema.targeter allowed).resolve t.identifier place = .ok (.targeter t) := by
  refine ⟨Targeter.ofText?_as_documented_iff text, ?_, ?_⟩
  · simp only [Schema.resolve_targeter_iff]
    constructor
    · rintro h ⟨hself, hallowed⟩
      obtain ⟨t, -, hspelled, -⟩ := (h (.targeter .player)).1
        ⟨.player, hallowed, Targeter.ofText?_of_markedSelf hself, rfl⟩
      exact Targeter.not_spelled_of_markedSelf hself t hspelled
    · intro hself v
      refine exists_congr fun t => and_congr_right fun hallowed => and_congr_left fun _ => ?_
      rw [Targeter.ofText?_eq_some_iff, or_iff_left]
      rintro ⟨hmarked, rfl⟩
      exact hself ⟨hmarked, hallowed⟩
  · intro e he
    obtain ⟨fault, -, rfl⟩ := (Schema.resolve_eq_error_iff _ text position e).1 he
    refine ⟨allowed.toList, rfl, allowed.mem_toList_iff, fun t ht => ?_⟩
    exact ⟨t.identifier_mem_documented,
      Schema.resolve_targeter_identifier ((allowed.mem_toList_iff t).1 ht)⟩

-- Only one mark is dropped, and only blanks around the whole are.
example : Targeter.ofText? " @TARGET" = some .entity ∧ Targeter.ofText? "?@target" = none ∧
    Targeter.ofText? "@ target" = none := by
  decide

end AbilityScript
