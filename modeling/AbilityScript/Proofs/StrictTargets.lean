import AbilityScript.Builtin
import AbilityScript.Proofs.Builtin.Meaning
import AbilityScript.Proofs.Compatibility
import AbilityScript.Proofs.CompiledLines

namespace AbilityScript

namespace Engine

/-- The result is no refusal but that of a false condition: the ability is in force, the triggers
agree, nothing is missing and nothing is referred to in vain. -/
def Admitted (result : Except Refusal Execution) : Prop :=
  ∀ refusal, result = .error refusal → ∃ ability condition,
    refusal = .conditionFailed ability condition

structure Equipped (context : Context) (a : Ability) : Prop where
  keywords : ∀ c ∈ a.keywords, ∀ t, Value.targeter t ∈ c.arguments.values →
    (∀ scene, (context.location? scene t).isSome) ∧ (t ≠ .block → (context.entity? t).isSome)
  conditions : ∀ c ∈ a.conditions, ∀ t, Value.targeter t ∈ c.arguments.values →
    (∀ scene, (context.location? scene t).isSome) ∧ (t ≠ .block → (context.entity? t).isSome)
  effects : ∀ c ∈ a.keywords, c.keyword ∈ Builtin.keywords → ∀ scene,
    ∃ effect, Builtin.Does context scene c effect ∧
      c.keyword.body context c.arguments scene = [effect]
  answers : ∀ c ∈ a.conditions, c.condition ∈ Builtin.conditions → ∀ scene,
    ∃ answer, Builtin.Answers context scene c answer ∧
      c.condition.body context c.arguments scene = (answer, [])

theorem compatible_of_admitted_run {e : Engine} {a : Ability} {context : Context} {s : Simulation}
    (h : Admitted (e.run a context s).1) :
    ¬ Lacks e.strict a context.capabilities ∧ ¬ Strays e.strict a := by
  rw [← incompatibility?_eq_none_iff]
  by_contra hsome
  obtain ⟨refusal, hrefusal⟩ := Option.ne_none_iff_exists'.1 hsome
  have hrun : (e.run a context s).1 = .error refusal := by simp [run, hrefusal]
  -- The gate refuses for a false condition alone, which comes after what is decided here.
  obtain ⟨ability, condition, rfl⟩ := h refusal hrun
  by_cases hlacks : Lacks e.strict a context.capabilities
  · rw [incompatibility?_of_lacks hlacks] at hrefusal
    cases hrefusal
  · by_cases hstrays : Strays e.strict a
    · rw [incompatibility?_of_strays hlacks hstrays] at hrefusal
      cases hrefusal
    · rw [(incompatibility?_eq_none_iff _ _ _).2 ⟨hlacks, hstrays⟩] at hrefusal
      cases hrefusal

/-- Strictness carries a reference over the trigger's promise to what the context supplies. -/
theorem supplied_of_refersTo {strict : Bool} {a : Ability} {supplied : Capabilities}
    (hstrict : strict = true) (h : ¬ Lacks strict a supplied ∧ ¬ Strays strict a) {t : Targeter}
    (ht : a.RefersTo t) : t ∈ supplied := by
  have hdeclared : t ∈ a.trigger.targeters := by
    by_contra hno
    exact h.2 ⟨hstrict, t, ht, hno⟩
  by_contra hno
  exact h.1 (.inr ⟨hstrict, t, hdeclared, hno⟩)

theorem equipped_of_admitted_run {r : Registry} {a : Ability} (ha : r.Produces a) {e : Engine}
    (he : e.strict = true) {context : Context} {s : Simulation}
    (h : Admitted (e.run a context s).1) : Equipped context a := by
  -- A strict engine that goes on has seen each reference promised, and each promise kept.
  have hsupplied {t : Targeter} (ht : a.RefersTo t) : t ∈ context.capabilities :=
    supplied_of_refersTo he (compatible_of_admitted_run h) ht
  have hkeywords (c : KeywordCall Ability) (hc : c ∈ a.keywords) :
      Builtin.SubjectsPresent context c.arguments := fun t ht => by
    have hmem := hsupplied (.inl ⟨c, hc, ht⟩)
    exact ⟨fun scene => (context.mem_capabilities_iff t scene).1 hmem,
      Context.entity?_isSome hmem⟩
  have hconditions (c : ConditionCall Ability) (hc : c ∈ a.conditions) :
      Builtin.SubjectsPresent context c.arguments := fun t ht => by
    have hmem := hsupplied (.inr ⟨c, hc, ht⟩)
    exact ⟨fun scene => (context.mem_capabilities_iff t scene).1 hmem,
      Context.entity?_isSome hmem⟩
  exact {
    keywords := hkeywords
    conditions := hconditions
    effects := fun c hc hbuiltin scene =>
      Builtin.body_eq_of_typed hbuiltin (ha.typed.1 c hc) (hkeywords c hc)
    answers := fun c hc hbuiltin scene =>
      Builtin.answer_eq_of_typed hbuiltin (ha.typed.2 c hc) (hconditions c hc) }

/-- An ability compiled with any functions, run by a strict engine for an event or by its name and
not refused before its conditions, finds every subject it refers to. -/
theorem equipped_of_strict_admitted (r : Registry) (a : Ability) (ha : r.Produces a) (e : Engine)
    (he : e.strict = true) :
    (∀ context s, Admitted (e.tryExecute a context s).1 → Equipped context a) ∧
    ∀ name player s, s.cache.set.get? name = some a → Admitted (e.executeByName name player s).1 →
      Equipped ⟨name, .unbound, player, .base⟩ a := by
  refine ⟨fun context s h => ?_, fun name player s hcached h => ?_⟩
  · by_cases htrigger : context.trigger = a.trigger
    · rw [tryExecute, if_pos htrigger] at h
      exact equipped_of_admitted_run ha he h
    · rw [tryExecute, if_neg htrigger] at h
      obtain ⟨ability, condition, hrefusal⟩ := h _ rfl
      cases hrefusal
  · rw [executeByName, hcached] at h
    exact equipped_of_admitted_run ha he h

def strikeBack : Ability where
  name := "strike-back"
  trigger := .damageTaken
  keywords := [⟨Builtin.lightning, ⟨[.targeter .entity]⟩⟩]
  conditions := [⟨Builtin.isBurning, ⟨[.targeter .entity]⟩⟩]
  timer := none

/-- The attacker is there when a strict engine runs the ability for an attack on the player. -/
theorem equipped_strikeBack :
    Registry.withBuiltins.registry.Produces strikeBack ∧
      Admitted ((⟨true, .inline⟩ : Engine).tryExecute strikeBack
        ⟨"strike-back", .damageTaken, 0, .entity 1⟩ (.new (.ofList [] (.new "")))).1 ∧
      Equipped ⟨"strike-back", .damageTaken, 0, .entity 1⟩ strikeBack := by
  have hproduced : Registry.withBuiltins.registry.Produces strikeBack :=
    .inr ⟨"strike-back", ⟨"damage-taken", ["lightning(?entity)"], ["isburning(?entity)"], none⟩, _,
      (Registry.compile_eq_ok_iff _ _ _ _).2 ⟨.damageTaken, none, by decide, rfl, rfl⟩, rfl⟩
  have hadmitted : Admitted ((⟨true, .inline⟩ : Engine).tryExecute strikeBack
      ⟨"strike-back", .damageTaken, 0, .entity 1⟩ (.new (.ofList [] (.new "")))).1 :=
    fun refusal h => ⟨"strike-back", "isburning", (Except.error.inj h).symm⟩
  exact ⟨hproduced, hadmitted,
    (equipped_of_strict_admitted _ _ hproduced ⟨true, .inline⟩ rfl).1 _ _ hadmitted⟩

end Engine

end AbilityScript
