import AbilityScript.Proofs.ArgumentTyping

namespace AbilityScript

open Text

namespace Enumeration

variable {α : Type}

/-- At this place is the first of the members whose spelling the text has, up to case. -/
structure FirstSpelled (e : Enumeration α) (text : String) (i : Nat) (m : α) : Prop where
  found : e.members[i]? = some m
  spelled : sameLetters (e.spelling m) text = true
  earlier : ∀ j < i, ∀ other, e.members[j]? = some other →
    sameLetters (e.spelling other) text = false

variable {e : Enumeration α} {text : String} {i : Nat} {m : α}

theorem find?_eq_some_iff (m : α) :
    e.members.find? (fun other => sameLetters (e.spelling other) text) = some m ↔
      ∃ i, e.FirstSpelled text i m := by
  rw [List.find?_eq_some_iff_getElem]
  constructor
  · rintro ⟨hspelled, i, hi, rfl, hearlier⟩
    refine ⟨i, List.getElem?_eq_getElem hi, hspelled, fun j hj other hother => ?_⟩
    obtain ⟨-, rfl⟩ := List.getElem?_eq_some_iff.1 hother
    simpa using hearlier j hj
  · rintro ⟨i, hfound, hspelled, hearlier⟩
    obtain ⟨hi, hm⟩ := List.getElem?_eq_some_iff.1 hfound
    refine ⟨hspelled, i, hi, hm, fun j hj => ?_⟩
    have hother := hearlier j hj _ (List.getElem?_eq_getElem (Nat.lt_trans hj hi))
    simpa using hother

/-- A search for the very spelling of the member ends at the same place: an earlier member with that
spelling would have been met before. -/
theorem FirstSpelled.findIdx? (h : e.FirstSpelled text i m) :
    e.members.findIdx? (fun other => e.spelling other == e.spelling m) = some i := by
  obtain ⟨hi, hm⟩ := List.getElem?_eq_some_iff.1 h.found
  refine List.findIdx?_eq_some_iff_getElem.2 ⟨hi, by simp [hm], fun j hj hsame => ?_⟩
  have hother := h.earlier j hj _ (List.getElem?_eq_getElem (Nat.lt_trans hj hi))
  rw [beq_iff_eq.1 hsame, h.spelled] at hother
  cases hother

theorem FirstSpelled.value (h : e.FirstSpelled text i m) :
    e.value m = ⟨e.name, i, e.spelling m⟩ := by
  simp only [Enumeration.value, h.findIdx?, Option.getD_some]

theorem parse?_eq_some_iff (v : EnumValue) :
    e.parse? text = some v ↔ ∃ i m, e.FirstSpelled text i m ∧ v = ⟨e.name, i, e.spelling m⟩ := by
  simp only [parse?, Option.map_eq_some_iff, find?_eq_some_iff]
  constructor
  · rintro ⟨m, ⟨i, h⟩, rfl⟩
    exact ⟨i, m, h, h.value⟩
  · rintro ⟨i, m, h, rfl⟩
    exact ⟨m, ⟨i, h⟩, h.value⟩

theorem exists_firstSpelled_iff :
    (∃ i m, e.FirstSpelled text i m) ↔ ∃ m ∈ e.members, sameLetters (e.spelling m) text = true := by
  rw [← List.find?_isSome, Option.isSome_iff_exists, exists_comm]
  simp only [find?_eq_some_iff]

/-- The enumeration of the spellings reads a text as the enumeration does. -/
theorem parse?_spellings_eq (e : Enumeration α) (text : String) :
    e.spellings.parse? text = e.parse? text := by
  have hvalue : e.spellings.value ∘ e.spelling = e.value := funext (value_spellings e)
  rw [parse?, parse?, spellings, List.find?_map, Option.map_map]
  exact congrArg (fun f => Option.map f _) hvalue

/-- A value for the place reads back as the member there, and as no member of an enumeration with
another name. -/
theorem FirstSpelled.read? (h : e.FirstSpelled text i m) (spelling : String) :
    e.read? ⟨e.name, i, spelling⟩ = some m := by
  rw [Enumeration.read?, if_pos (beq_self_eq_true _), h.found]

theorem read?_of_name_ne {v : EnumValue} (h : v.enumeration ≠ e.name) : e.read? v = none := by
  rw [read?, if_neg (by simpa using h)]

end Enumeration

theorem Schema.resolve_choice_iff {α : Type} (e : Enumeration α) (label : Option String)
    (token : String) (position : Nat) (v : Value) :
    (choice e.spellings label).resolve token position = .ok v ↔
      ∃ i m, e.FirstSpelled token i m ∧ v = .member ⟨e.name, i, e.spelling m⟩ := by
  rw [resolve_eq_ok_iff, read_eq_ok_iff]
  simp only [convert?, refuses, and_true, Option.map_eq_some_iff, Enumeration.parse?_spellings_eq,
    Enumeration.parse?_eq_some_iff]
  constructor
  · rintro ⟨_, ⟨i, m, h, rfl⟩, rfl⟩
    exact ⟨i, m, h, rfl⟩
  · rintro ⟨i, m, h, rfl⟩
    exact ⟨_, ⟨i, m, h, rfl⟩, rfl⟩

/-- A choice among the members of an enumeration, with whatever spellings, takes just the tokens
that are the spelling of a member up to case. Its value has the name of the enumeration and the
place and the spelling of the first such member. It reads back as the member at that place, whose
spelling is the token up to case, and not as a member of an enumeration with another name. The place
is where the spelling is first found among the members, never one that stands in for a failed
search. -/
theorem choices_read_back {α : Type} (e : Enumeration α) (label : Option String) (token : String)
    (position : Nat) :
    let schema := Schema.choice e.spellings label
    ((∃ v, schema.resolve token position = .ok v) ↔
      ∃ m ∈ e.members, sameLetters (e.spelling m) token = true) ∧
    ∀ v, schema.resolve token position = .ok v → ∃ i m, e.FirstSpelled token i m ∧
      v = .member ⟨e.name, i, e.spelling m⟩ ∧
      v.asMember? e = some m ∧
      (∀ (β : Type) (other : Enumeration β), other.name ≠ e.name → v.asMember? other = none) ∧
      e.members.findIdx? (fun other => e.spelling other == e.spelling m) = some i := by
  intro schema
  have hresolve := Schema.resolve_choice_iff e label token position
  constructor
  · rw [← Enumeration.exists_firstSpelled_iff]
    constructor
    · rintro ⟨v, hv⟩
      obtain ⟨i, m, h, -⟩ := (hresolve v).1 hv
      exact ⟨i, m, h⟩
    · rintro ⟨i, m, h⟩
      exact ⟨_, (hresolve _).2 ⟨i, m, h, rfl⟩⟩
  · intro v hv
    obtain ⟨i, m, h, rfl⟩ := (hresolve v).1 hv
    refine ⟨i, m, h, rfl, h.read? _, fun β other hother => ?_, h.findIdx?⟩
    exact Enumeration.read?_of_name_ne hother.symm

-- The first member that matches is taken, though a later one has the very spelling of the token.
example :
    let slots : Enumeration (Fin 4) := ⟨"slot", [0, 3, 1, 2], (["Head", "Feet", "feet", "feet"][·])⟩
    (Schema.choice slots.spellings none).resolve "Feet" 0 = .ok (.member ⟨"slot", 1, "feet"⟩) ∧
      (Value.member ⟨"slot", 1, "feet"⟩).asMember? slots = some 3 := by
  decide +kernel

end AbilityScript
