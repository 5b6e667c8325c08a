import AbilityScript.Engine
import AbilityScript.Proofs.References

namespace AbilityScript

namespace Context

/-- A context supplies a targeter just when it resolves it to a place, in every scene. -/
theorem mem_capabilities_iff (context : Context) (t : Targeter) (scene : Scene) :
    t ∈ context.capabilities ↔ (context.location? scene t).isSome := by
  obtain ⟨ability, trigger, player, kind⟩ := context
  cases t <;> cases kind <;>
    simp [capabilities, ContextKind.capabilities, Capabilities.has, location?, ContextKind.entity?,
      ContextKind.block?]

/-- What a context supplies and is no block is an entity. -/
theorem entity?_isSome {context : Context} {t : Targeter} (h : t ∈ context.capabilities)
    (hblock : t ≠ .block) : (context.entity? t).isSome := by
  obtain ⟨ability, trigger, player, kind⟩ := context
  cases t with
  | player => rfl
  | block => exact absurd rfl hblock
  | entity => cases kind <;> simp_all [capabilities, ContextKind.capabilities, Capabilities.has,
      entity?, ContextKind.entity?]

end Context

theorem Trigger.player_mem_targeters (t : Trigger) : Targeter.player ∈ t.targeters := by
  cases t <;> rfl

namespace Engine

/-- The context supplies none of the subjects that the trigger promises, or a strict engine misses
one of them. -/
def Lacks (strict : Bool) (a : Ability) (supplied : Capabilities) : Prop :=
  (∀ t, t ∈ a.trigger.targeters → t ∉ supplied) ∨
    strict = true ∧ ∃ t, t ∈ a.trigger.targeters ∧ t ∉ supplied

def Strays (strict : Bool) (a : Ability) : Prop :=
  strict = true ∧ ∃ t, a.RefersTo t ∧ t ∉ a.trigger.targeters

theorem lacks_iff (strict : Bool) (a : Ability) (supplied : Capabilities) :
    Lacks strict a supplied ↔ supplied.intersects a.trigger.targeters = false ∨
      strict = true ∧ supplied.contains a.trigger.targeters = false := by
  have hnone : supplied.intersects a.trigger.targeters = false ↔
      ∀ t, t ∈ a.trigger.targeters → t ∉ supplied := by
    rw [← Bool.not_eq_true, Capabilities.intersects_iff, not_exists]
    exact forall_congr' fun t => ⟨fun h ht hs => h ⟨hs, ht⟩, fun h hm => h hm.2 hm.1⟩
  have hsome : supplied.contains a.trigger.targeters = false ↔
      ∃ t, t ∈ a.trigger.targeters ∧ t ∉ supplied := by
    rw [← Bool.not_eq_true, Capabilities.contains_iff, not_forall]
    exact exists_congr fun t => Classical.not_imp
  rw [Lacks, hnone, hsome]

theorem strays_iff (strict : Bool) (a : Ability) :
    Strays strict a ↔ strict = true ∧ a.trigger.targeters.contains a.targeters = false := by
  rw [Strays, ← Bool.not_eq_true (a.trigger.targeters.contains a.targeters),
    Capabilities.contains_iff, not_forall]
  refine and_congr_right fun _ => exists_congr fun t => ?_
  rw [Classical.not_imp, a.mem_targeters_iff]

theorem incompatibility?_of_lacks {strict : Bool} {a : Ability} {supplied : Capabilities}
    (h : Lacks strict a supplied) : incompatibility? strict a supplied =
      some (.missingCapability a.name a.trigger (a.trigger.targeters.diff supplied)) := by
  rcases (lacks_iff strict a supplied).1 h with hnone | ⟨rfl, hsome⟩
  -- Of sets with nothing in common the difference is the whole first set, which is reported then.
  · simp [incompatibility?, hnone, Capabilities.diff_eq_self hnone]
  · cases hi : supplied.intersects a.trigger.targeters with
    | false => simp [incompatibility?, hi, Capabilities.diff_eq_self hi]
    | true => simp [incompatibility?, hi, hsome]

theorem incompatibility?_of_strays {strict : Bool} {a : Ability} {supplied : Capabilities}
    (hlacks : ¬ Lacks strict a supplied) (h : Strays strict a) :
    incompatibility? strict a supplied =
      some (.unsupportedTargeter a.name a.trigger (a.targeters.diff a.trigger.targeters)) := by
  obtain ⟨rfl, hstray⟩ := (strays_iff strict a).1 h
  simp only [lacks_iff, true_and, not_or, Bool.not_eq_false] at hlacks
  simp [incompatibility?, hlacks.1, hlacks.2, hstray]

/-- The decision is silent just when nothing that matters is missing or referred to in vain. -/
theorem incompatibility?_eq_none_iff (strict : Bool) (a : Ability) (supplied : Capabilities) :
    incompatibility? strict a supplied = none ↔ ¬ Lacks strict a supplied ∧ ¬ Strays strict a := by
  constructor
  -- Whatever is missing or strays makes the decision speak.
  · intro h
    refine ⟨fun hlacks => ?_, fun hstrays => ?_⟩
    · rw [incompatibility?_of_lacks hlacks] at h
      cases h
    · by_cases hlacks : Lacks strict a supplied
      · rw [incompatibility?_of_lacks hlacks] at h
        cases h
      · rw [incompatibility?_of_strays hlacks hstrays] at h
        cases h
  · rintro ⟨hlacks, hstrays⟩
    rw [lacks_iff, not_or, Bool.not_eq_false] at hlacks
    rw [strays_iff] at hstrays
    cases strict with
    | false => simp [incompatibility?, hlacks.1]
    | true =>
      simp only [true_and, Bool.not_eq_false] at hlacks hstrays
      simp [incompatibility?, hlacks.1, hlacks.2, hstrays]

end Engine

end AbilityScript
