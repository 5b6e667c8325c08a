import AbilityScript.Ability
import Mathlib.Data.List.Basic

namespace AbilityScript

namespace Capabilities

theorem has_foldl_union (sets : List Capabilities) (s : Capabilities) (m : Targeter) :
    (sets.foldl (· ∪ ·) s).has m = true ↔ s.has m = true ∨ ∃ u ∈ sets, u.has m = true := by
  induction sets generalizing s with
  | nil => simp
  | cons u sets ih =>
    rw [List.foldl_cons, ih, has_union, Bool.or_eq_true, List.exists_mem_cons_iff, or_assoc]

theorem has_ofList (targeters : List Targeter) (m : Targeter) :
    (ofList targeters).has m = true ↔ m ∈ targeters := by
  -- A set built up from a list is a union of singletons.
  have hfold : ofList targeters = (targeters.map singleton).foldl (· ∪ ·) empty := by
    rw [List.foldl_map]
    rfl
  rw [hfold, has_foldl_union]
  simp

theorem contains_iff (s t : Capabilities) : s.contains t = true ↔ ∀ m, m ∈ t → m ∈ s := by
  simp only [contains, List.all_eq_true, Bool.or_eq_true, Bool.not_eq_true', mem_def]
  constructor
  · intro h m hm
    rcases h m (Targeter.mem_all m) with hno | hyes
    · simp [hm] at hno
    · exact hyes
  · intro h m _
    cases hm : t.has m with
    | false => exact .inl rfl
    | true => exact .inr (h m hm)

theorem intersects_iff (s t : Capabilities) : s.intersects t = true ↔ ∃ m, m ∈ s ∧ m ∈ t := by
  simp only [intersects, List.any_eq_true, Bool.and_eq_true, mem_def]
  constructor
  · rintro ⟨m, -, hm⟩
    exact ⟨m, hm⟩
  · rintro ⟨m, hm⟩
    exact ⟨m, Targeter.mem_all m, hm⟩

theorem mem_diff_iff (s t : Capabilities) (m : Targeter) : m ∈ s.diff t ↔ m ∈ s ∧ m ∉ t := by
  simp

/-- Of a set that has nothing in common with another, nothing is taken away. -/
theorem diff_eq_self {s t : Capabilities} (h : s.intersects t = false) : t.diff s = t := by
  refine ext_has fun m => ?_
  have hdisjoint : ¬ (m ∈ s ∧ m ∈ t) := fun hm => by
    rw [(intersects_iff s t).2 ⟨m, hm⟩] at h
    cases h
  rw [has_diff]
  cases hs : s.has m <;> cases ht : t.has m <;> simp_all

end Capabilities

/-- A targeter counts among those of an argument list just when it stands at some place of it. -/
theorem Arguments.mem_targeters_iff (a : Arguments) (t : Targeter) :
    t ∈ a.targeters ↔ Value.targeter t ∈ a.values := by
  rw [Capabilities.mem_def, targeters, Capabilities.has_ofList, List.mem_filterMap]
  constructor
  · rintro ⟨v, hv, hread⟩
    cases v <;> simp [Value.asTargeter?] at hread
    exact hread ▸ hv
  · exact fun h => ⟨_, h, rfl⟩

namespace Ability

def RefersTo (a : Ability) (t : Targeter) : Prop :=
  (∃ c ∈ a.keywords, Value.targeter t ∈ c.arguments.values) ∨
    ∃ c ∈ a.conditions, Value.targeter t ∈ c.arguments.values

/-- The folded set of an ability's targeters leaves out none of its calls and adds nothing. -/
theorem mem_targeters_iff (a : Ability) (t : Targeter) : t ∈ a.targeters ↔ a.RefersTo t := by
  rw [Capabilities.mem_def, targeters, Capabilities.has_foldl_union, Capabilities.has_empty]
  have hkeyword (c : KeywordCall Ability) :
      c.targeters.has t = true ↔ Value.targeter t ∈ c.arguments.values :=
    c.arguments.mem_targeters_iff t
  have hcondition (c : ConditionCall Ability) :
      c.targeters.has t = true ↔ Value.targeter t ∈ c.arguments.values :=
    c.arguments.mem_targeters_iff t
  simp only [List.mem_append, List.mem_map, RefersTo]
  constructor
  · rintro (hfalse | ⟨u, ⟨c, hc, rfl⟩ | ⟨c, hc, rfl⟩, hu⟩)
    · cases hfalse
    · exact .inl ⟨c, hc, (hkeyword c).1 hu⟩
    · exact .inr ⟨c, hc, (hcondition c).1 hu⟩
  · rintro (⟨c, hc, ht⟩ | ⟨c, hc, ht⟩)
    · exact .inr ⟨c.targeters, .inl ⟨c, hc, rfl⟩, (hkeyword c).2 ht⟩
    · exact .inr ⟨c.targeters, .inr ⟨c, hc, rfl⟩, (hcondition c).2 ht⟩

end Ability

end AbilityScript
