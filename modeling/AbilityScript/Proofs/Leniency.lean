import AbilityScript.Proofs.Builtin.Deeds
import AbilityScript.Proofs.Snapshot

/-!
What strictness changes. A lenient engine passes over the keywords whose subject the context does
not have, as if they were not there; a strict engine does what a lenient one does, or refuses for
want of a subject before anything is called.
-/
namespace AbilityScript

namespace Context

variable {context : Context} {t : Targeter}

/-- An entity is supplied by every context that resolves it. -/
theorem mem_capabilities_of_entity? (h : (context.entity? t).isSome) :
    t ∈ context.capabilities := by
  obtain ⟨ability, trigger, player, kind⟩ := context
  cases t with
  | player => cases kind <;> rfl
  | block => cases h
  | entity =>
    cases kind with
    | entity id => rfl
    | _ => cases h

end Context

namespace Builtin

/-- The one targeter among the values of a built-in keyword is the first of them. -/
theorem KeywordValues.targeter?_of_mem {k : Keyword Ability} {values : List Value} {t : Targeter}
    (h : KeywordValues k values) (ht : .targeter t ∈ values) :
    (⟨values⟩ : Arguments).targeter? 0 = some t := by
  cases h <;> simp at ht <;> subst ht <;> rfl

/-- A call that reaches its subject refers to nothing that the context does not supply. -/
theorem contains_targeters_of_reaches {context : Context} {scene : Scene}
    {c : KeywordCall Ability} (hsound : SoundKeyword c)
    (h : Reaches context scene c.keyword c.arguments) :
    context.capabilities.contains c.targeters = true := by
  obtain ⟨t, ht, hresolved⟩ := h
  have hsupplied : t ∈ context.capabilities := by
    split at hresolved
    · exact (context.mem_capabilities_iff t scene).2 hresolved
    · exact Context.mem_capabilities_of_entity? hresolved
  rw [Capabilities.contains_iff]
  intro other hother
  have hvalue : .targeter other ∈ c.arguments.values :=
    (c.arguments.mem_targeters_iff other).1 hother
  have hfirst := hsound.values.targeter?_of_mem hvalue
  obtain rfl : t = other := Option.some.inj (ht.symm.trans hfirst)
  exact hsupplied

end Builtin

namespace Task

/-- Calls that do nothing to any scene may be left out. -/
theorem inTurn_filter {calls : List (KeywordCall Ability)} {keep : KeywordCall Ability → Bool}
    {context : Context}
    (h : ∀ c ∈ calls, keep c = false → ∀ scene, (call c context).onScene scene = scene)
    (scene : Scene) :
    inTurn ((calls.filter keep).map (call · context)) scene =
      inTurn (calls.map (call · context)) scene := by
  induction calls generalizing scene with
  | nil => rfl
  | cons c calls ih =>
    obtain ⟨hhead, htail⟩ := List.forall_mem_cons.1 h
    cases hkeep : keep c with
    | true =>
      rw [List.filter_cons_of_pos hkeep]
      exact ih htail ((call c context).onScene scene)
    | false =>
      rw [List.filter_cons_of_neg (by simp [hkeep])]
      calc inTurn ((calls.filter keep).map (call · context)) scene
          = inTurn (calls.map (call · context)) scene := ih htail scene
        _ = inTurn (calls.map (call · context)) ((call c context).onScene scene) := by
            rw [hhead hkeep scene]

end Task

namespace Ability

def suppliedBy (context : Context) (a : Ability) : Ability :=
  { a with keywords := a.keywords.filter fun c => context.capabilities.contains c.targeters }

end Ability

namespace Engine

open Simulation

/-- The outcomes of an ability and of another that lacks some of its keywords agree: both are
refused alike, or both count all of their keywords and leave one and the same scene. -/
inductive AgreeButForSkipped (a b : Ability) :
    Except Refusal Execution × Simulation → Except Refusal Execution × Simulation → Prop
  | refused (refusal : Refusal) (s' : Simulation) :
      AgreeButForSkipped a b (.error refusal, s') (.error refusal, s')
  | executed {done done' : Execution} {s' s'' : Simulation}
      (counted : done.completed + done.dispatched = a.keywords.length)
      (counted' : done'.completed + done'.dispatched = b.keywords.length)
      (scene : s''.scene = s'.scene) : AgreeButForSkipped a b (.ok done, s') (.ok done', s'')

inductive WantsSubject : Refusal → Prop
  | missing (ability : String) (trigger : Trigger) (missing : Capabilities) :
      WantsSubject (.missingCapability ability trigger missing)
  | unsupported (ability : String) (trigger : Trigger) (unsupported : Capabilities) :
      WantsSubject (.unsupportedTargeter ability trigger unsupported)

/-- A strict attempt comes to what the lenient one comes to, in its result and in all that it leaves
behind, or it is refused for want of a subject and leaves the state as it was. -/
def OnlyRefusesMore (strict lenient : Except Refusal Execution × Simulation) (s : Simulation) :
    Prop :=
  strict = lenient ∨ ∃ refusal, WantsSubject refusal ∧ strict = (.error refusal, s)

section Lenient

variable {context : Context}

/-- Where work runs as soon as it is handed over, a dispatch does to the scene what the bodies of
the keywords do, one after the other. -/
theorem scene_dispatchAll_inline {calls : List (KeywordCall Ability)}
    (hk : ∀ c ∈ calls, c.keyword ∈ Builtin.keywords) (done : Execution) {s : Simulation}
    (hpending : s.pending = []) :
    (dispatchAll .inline context calls done s).2.scene =
      Task.inTurn (calls.map fun c => .call c context) s.scene := by
  have hnone : ∀ task ∈ s.pending, task.IsMessage := by
    rw [hpending]
    exact fun task htask => absurd htask List.not_mem_nil
  have hinline : Scheduler.inline.InOrder := fun n i hi => List.mem_singleton.1 hi
  have hsettles : Settles Scheduler.inline.InOrder
      (Task.inTurn (calls.map fun c => .call c context)) s
      (dispatchAll .inline context calls done s).2 :=
    settles_dispatchAll (fun _ => rfl) hk done hnone
  -- Nothing waits before or after, so both states are settled as they are.
  have hafter : (dispatchAll .inline context calls done s).2.pending = [] :=
    Command.pending_dispatchAll_of_prompt (fun _ => rfl) calls done hpending
  have hexact := hsettles.exact hinline
  rw [settled, settled, hpending, hafter] at hexact
  exact hexact.symm

/-- The keywords that a context cannot supply do nothing to the scene, wherever they stand. -/
theorem inTurn_suppliedBy {a : Ability} (h : Registry.withBuiltins.registry.Produces a)
    (context : Context) (scene : Scene) :
    Task.inTurn ((a.suppliedBy context).keywords.map fun c => .call c context) scene =
      Task.inTurn (a.keywords.map fun c => .call c context) scene := by
  have hbuiltins := (Ability.ofBuiltins_of_produces h).keywords
  refine Task.inTurn_filter (fun c hc hsupplied other => ?_) scene
  have hsound := Builtin.soundKeyword_of_typed (hbuiltins c hc) (h.typed.1 c hc)
  -- A call that found its subject would have been supplied with it.
  have hunreached : ¬ Builtin.Reaches context other c.keyword c.arguments := by
    intro hreach
    have hcontains := Builtin.contains_targeters_of_reaches hsound hreach
    exact Bool.false_ne_true (hsupplied.symm.trans hcontains)
  have hnotices := Builtin.notices_of_not_reaches (hbuiltins c hc) hunreached
  exact Effect.inTurn_of_notices hnotices other

/-- The lenient engine runs an ability as it runs the one without what cannot be supplied. -/
theorem run_suppliedBy {a : Ability} (h : Registry.withBuiltins.registry.Produces a)
    (context : Context) {s : Simulation} (hpending : s.pending = []) :
    AgreeButForSkipped a (a.suppliedBy context) (run ⟨false, .inline⟩ a context s)
      (run ⟨false, .inline⟩ (a.suppliedBy context) context s) := by
  have hbuiltins := Ability.ofBuiltins_of_produces h
  -- Trigger and conditions are those of the ability, and a lenient decision reads no keyword.
  have hcompatible : incompatibility? false (a.suppliedBy context) context.capabilities =
      incompatibility? false a context.capabilities := rfl
  have hconditions : (a.suppliedBy context).conditions = a.conditions := rfl
  simp only [run, hcompatible, hconditions]
  cases incompatibility? false a context.capabilities with
  | some refusal => exact .refused refusal s
  | none =>
    have hwaiting := pending_failedCondition? Scheduler.inline.callerThread context s a.conditions
    rcases hgate : failedCondition? Scheduler.inline.callerThread context s a.conditions with
      ⟨_ | condition, s₁⟩
    · rw [hgate] at hwaiting
      have hnone : s₁.pending = [] := hwaiting.trans hpending
      have hkept : ∀ c ∈ (a.suppliedBy context).keywords, c.keyword ∈ Builtin.keywords :=
        fun c hc => hbuiltins.keywords c (List.mem_filter.1 hc).1
      refine .executed ?_ ?_ ?_
      · rw [dispatchAll_eq]
        exact completed_add_dispatched_tally a.name a.keywords
      · rw [dispatchAll_eq]
        exact completed_add_dispatched_tally a.name (a.suppliedBy context).keywords
      · calc (dispatchAll .inline context (a.suppliedBy context).keywords ⟨a.name, 0, 0⟩ s₁).2.scene
            = Task.inTurn ((a.suppliedBy context).keywords.map fun c => .call c context) s₁.scene :=
              scene_dispatchAll_inline hkept _ hnone
          _ = Task.inTurn (a.keywords.map fun c => .call c context) s₁.scene :=
              inTurn_suppliedBy h context s₁.scene
          _ = (dispatchAll .inline context a.keywords ⟨a.name, 0, 0⟩ s₁).2.scene :=
              (scene_dispatchAll_inline hbuiltins.keywords _ hnone).symm
    · exact .refused _ s₁

end Lenient

section Strict

/-- A strict engine that finds nothing amiss has asked for all that a lenient one asks for. -/
theorem incompatibility?_of_compatible {a : Ability} {supplied : Capabilities}
    (hlacks : ¬ Lacks true a supplied) (hstrays : ¬ Strays true a) (strict : Bool) :
    incompatibility? strict a supplied = none := by
  cases strict with
  | true => exact (incompatibility?_eq_none_iff true a supplied).2 ⟨hlacks, hstrays⟩
  | false =>
    have hlacks' : ¬ Lacks false a supplied := by
      rintro (hnone | ⟨hfalse, -⟩)
      · exact hlacks (.inl hnone)
      · cases hfalse
    have hstrays' : ¬ Strays false a := fun h => Bool.false_ne_true h.1
    exact (incompatibility?_eq_none_iff false a supplied).2 ⟨hlacks', hstrays'⟩

theorem incompatibility?_strict (a : Ability) (supplied : Capabilities) :
    incompatibility? true a supplied = incompatibility? false a supplied ∨
      ∃ refusal, WantsSubject refusal ∧ incompatibility? true a supplied = some refusal := by
  by_cases hlacks : Lacks true a supplied
  · exact .inr ⟨_, .missing _ _ _, incompatibility?_of_lacks hlacks⟩
  by_cases hstrays : Strays true a
  · exact .inr ⟨_, .unsupported _ _ _, incompatibility?_of_strays hlacks hstrays⟩
  have hnone (strict : Bool) : incompatibility? strict a supplied = none :=
    incompatibility?_of_compatible hlacks hstrays strict
  exact .inl ((hnone true).trans (hnone false).symm)

variable (sched : Scheduler) (s : Simulation)

theorem run_strict (a : Ability) (context : Context) :
    OnlyRefusesMore (run ⟨true, sched⟩ a context s) (run ⟨false, sched⟩ a context s) s := by
  rcases incompatibility?_strict a context.capabilities with hsame | ⟨refusal, hwants, hrefused⟩
  · refine .inl ?_
    simp only [run, hsame]
  · refine .inr ⟨refusal, hwants, ?_⟩
    simp only [run, hrefused]

theorem tryExecute_strict (a : Ability) (context : Context) :
    OnlyRefusesMore (tryExecute ⟨true, sched⟩ a context s) (tryExecute ⟨false, sched⟩ a context s)
      s := by
  by_cases htrigger : context.trigger = a.trigger
  · simp only [tryExecute, if_pos htrigger]
    exact run_strict sched s a context
  · simp only [tryExecute, if_neg htrigger]
    exact .inl rfl

theorem start_strict (start : Start) (name : String) :
    OnlyRefusesMore (start.run ⟨true, sched⟩ name s) (start.run ⟨false, sched⟩ name s) s := by
  rw [Start.run_eq, Start.run_eq]
  cases s.cache.set.get? name with
  | none => exact .inl rfl
  | some a =>
    simp only [Start.runFound]
    cases start.mismatch? name a with
    | some refusal => exact .inl rfl
    | none => exact run_strict sched s a (start.context name)

theorem OnlyRefusesMore.eq_of_ok {strict lenient : Except Refusal Execution × Simulation}
    {s : Simulation} (h : OnlyRefusesMore strict lenient s) {done : Execution}
    (hok : strict.1 = .ok done) : lenient = strict := by
  rcases h with hsame | ⟨refusal, -, hrefused⟩
  · exact hsame.symm
  · rw [hrefused] at hok
    cases hok

theorem tryExecute_of_compatible {a : Ability} {context : Context}
    (hlacks : ¬ Lacks true a context.capabilities) (hstrays : ¬ Strays true a) :
    tryExecute ⟨true, sched⟩ a context s = tryExecute ⟨false, sched⟩ a context s := by
  have hnone (strict : Bool) : incompatibility? strict a context.capabilities = none :=
    incompatibility?_of_compatible hlacks hstrays strict
  simp only [tryExecute, run, hnone]

end Strict

/-- A lenient engine that runs work at once executes an ability of built-in functions as it executes
the one without the keywords that the context cannot supply, and counts the keywords it passes over.
For any ability a strict engine comes to the very outcome of a lenient one, or refuses for want of a
subject before anything is called; so what it executes, the lenient engine executes alike. -/
theorem lenient_skips_and_strict_only_refuses :
    (∀ a, Registry.withBuiltins.registry.Produces a →
      ∀ (context : Context) (s : Simulation), s.pending = [] →
        AgreeButForSkipped a (a.suppliedBy context) (tryExecute ⟨false, .inline⟩ a context s)
          (tryExecute ⟨false, .inline⟩ (a.suppliedBy context) context s)) ∧
    (∀ a, Registry.withBuiltins.registry.Produces a →
      ∀ (name : String) (player : EntityId) (s : Simulation), s.pending = [] →
        s.cache.set.get? name = some a →
          AgreeButForSkipped a (a.suppliedBy ⟨name, .unbound, player, .base⟩)
            (executeByName ⟨false, .inline⟩ name player s)
            (run ⟨false, .inline⟩ (a.suppliedBy ⟨name, .unbound, player, .base⟩)
              ⟨name, .unbound, player, .base⟩ s)) ∧
    (∀ (sched : Scheduler) (a : Ability) (context : Context) (s : Simulation),
      OnlyRefusesMore (tryExecute ⟨true, sched⟩ a context s)
        (tryExecute ⟨false, sched⟩ a context s) s) ∧
    (∀ (sched : Scheduler) (start : Start) (name : String) (s : Simulation),
      OnlyRefusesMore (start.run ⟨true, sched⟩ name s) (start.run ⟨false, sched⟩ name s) s) ∧
    (∀ (sched : Scheduler) (a : Ability) (context : Context) (s : Simulation),
      ¬ Lacks true a context.capabilities → ¬ Strays true a →
        tryExecute ⟨true, sched⟩ a context s = tryExecute ⟨false, sched⟩ a context s) ∧
    ∀ (sched : Scheduler) (a : Ability) (context : Context) (s s' : Simulation) (done : Execution),
      tryExecute ⟨true, sched⟩ a context s = (.ok done, s') →
        tryExecute ⟨false, sched⟩ a context s = (.ok done, s') := by
  refine ⟨?_, ?_, fun sched a context s => tryExecute_strict sched s a context,
    fun sched start name s => start_strict sched s start name,
    fun sched a context s hlacks hstrays => tryExecute_of_compatible sched s hlacks hstrays, ?_⟩
  · intro a hproduced context s hpending
    have htrigger : (a.suppliedBy context).trigger = a.trigger := rfl
    simp only [tryExecute, htrigger]
    split
    · exact run_suppliedBy hproduced context hpending
    · exact .refused _ s
  · intro a hproduced name player s hpending hstored
    simp only [executeByName, hstored]
    exact run_suppliedBy hproduced _ hpending
  · intro sched a context s s' done hstrict
    have hok : (tryExecute ⟨true, sched⟩ a context s).1 = .ok done := congrArg Prod.fst hstrict
    exact ((tryExecute_strict sched s a context).eq_of_ok hok).trans hstrict

def smite : Ability where
  name := "smite"
  trigger := .rightClick
  keywords := Compile.calls
    (["damage(?entity, 5)", "message(?entity, Ouch)", "heal(?player, 3)"].map
      (Compile.keywordLine Registry.withBuiltins.registry))
  conditions := []
  timer := none

/-- A click in the air on behalf of a wounded player: there is no entity to be hurt, and the player
is healed all the same. What is left of the ability is executed by a strict engine too. -/
theorem lenient_skips_and_strict_only_refuses_smite :
    let context : Context := ⟨"smite", .rightClick, 0, .base⟩
    let s := Simulation.new (.ofList [(Entity.player "Alex" .origin).setHealth 10] (.new ""))
    let attempt := tryExecute ⟨false, .inline⟩ smite context s
    let strict := tryExecute ⟨true, .inline⟩ (smite.suppliedBy context) context s
    Registry.withBuiltins.registry.Produces smite ∧ s.pending = [] ∧
    attempt.1 = .ok ⟨"smite", 2, 1⟩ ∧ (attempt.2.scene.entity 0).health = 13 ∧
    (smite.suppliedBy context).keywords.map (fun c => c.keyword.name) = ["heal"] ∧
    AgreeButForSkipped smite (smite.suppliedBy context) attempt
      (tryExecute ⟨false, .inline⟩ (smite.suppliedBy context) context s) ∧
    strict = (.ok ⟨"smite", 1, 0⟩, strict.2) ∧
    tryExecute ⟨false, .inline⟩ (smite.suppliedBy context) context s =
      (.ok ⟨"smite", 1, 0⟩, strict.2) := by
  intro context s attempt strict
  have hproduced : Registry.withBuiltins.registry.Produces smite :=
    .inr ⟨"smite", ⟨"right-click", ["damage(?entity, 5)", "message(?entity, Ouch)",
        "heal(?player, 3)"], [], none⟩, _,
      (Registry.compile_eq_ok_iff _ _ _ _).2 ⟨.rightClick, none, by decide, rfl, rfl⟩, rfl⟩
  obtain ⟨hskips, -, -, -, -, hagrees⟩ := lenient_skips_and_strict_only_refuses
  have hresult : strict.1 = .ok ⟨"smite", 1, 0⟩ := by decide +kernel
  have hstrict : strict = (.ok ⟨"smite", 1, 0⟩, strict.2) := by
    -- The state that the attempt leaves is not to be looked into here.
    clear_value strict
    rw [← hresult]
  refine ⟨hproduced, rfl, by decide +kernel, by decide +kernel, by decide +kernel,
    hskips smite hproduced context s rfl, hstrict, ?_⟩
  exact hagrees .inline (smite.suppliedBy context) context s strict.2 _ hstrict

end Engine

end AbilityScript
