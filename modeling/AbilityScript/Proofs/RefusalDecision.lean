import AbilityScript.Builtin
import AbilityScript.Proofs.Compatibility
import AbilityScript.Proofs.Transcript

namespace AbilityScript

namespace Builtin

/-- The conditions of every registry do no more than leave notices. -/
theorem effects_of_conditions {c : Condition Ability} (hc : c ∈ conditions) (context : Context)
    (arguments : Arguments) (scene : Scene) :
    ∀ effect ∈ (c.body context arguments scene).2, ∃ n, effect = .notice n := by
  have hofTarget (name : String) (others : List Schema) (holds : Arguments → Entity → Bool) :
      ∀ effect ∈ ((ofTarget name others holds).body context arguments scene).2,
        ∃ n, effect = .notice n := by
    rcases htarget : target name arguments context with ⟨_ | id, notices⟩
    · intro effect heffect
      simp only [ofTarget, htarget, List.mem_map] at heffect
      obtain ⟨n, -, rfl⟩ := heffect
      exact ⟨n, rfl⟩
    · simp [ofTarget, htarget]
  simp only [conditions, List.mem_cons, List.not_mem_nil, or_false] at hc
  rcases hc with rfl | rfl | rfl
  · intro effect heffect
    simp only [isTime] at heffect
    split at heffect <;> cases heffect
  · exact hofTarget _ _ _
  · exact hofTarget _ _ _

end Builtin

namespace Engine

section Conditions

variable (thread : Thread) (context : Context)

inductive HoldInTurn : List (ConditionCall Ability) → Simulation → Simulation → Prop
  | nil (s : Simulation) : HoldInTurn [] s s
  | cons {call calls s s' s''} (holds : s.testCondition thread call context = (true, s'))
      (rest : HoldInTurn calls s' s'') : HoldInTurn (call :: calls) s s''

structure FirstFalse (calls before : List (ConditionCall Ability)) (call : ConditionCall Ability)
    (s s' : Simulation) : Prop where
  listed : before ++ [call] <+: calls
  tested : ∃ s₁, HoldInTurn thread context before s s₁ ∧
    s₁.testCondition thread call context = (false, s')

variable {thread context}

theorem holdInTurn_nil_iff {s s' : Simulation} :
    HoldInTurn thread context [] s s' ↔ s' = s :=
  ⟨fun h => by cases h; rfl, by rintro rfl; exact .nil s'⟩

theorem holdInTurn_cons_iff {call : ConditionCall Ability} {calls : List (ConditionCall Ability)}
    {s s'' : Simulation} :
    HoldInTurn thread context (call :: calls) s s'' ↔
      ∃ s', s.testCondition thread call context = (true, s') ∧
        HoldInTurn thread context calls s' s'' := by
  constructor
  · rintro (_ | ⟨holds, rest⟩)
    exact ⟨_, holds, rest⟩
  · rintro ⟨s', holds, rest⟩
    exact .cons holds rest

/-- The gate is open just when every condition holds in its turn. -/
theorem failedCondition?_eq_none_iff (calls : List (ConditionCall Ability)) (s s' : Simulation) :
    failedCondition? thread context s calls = (none, s') ↔
      HoldInTurn thread context calls s s' := by
  induction calls generalizing s with
  | nil => simp [failedCondition?, holdInTurn_nil_iff, eq_comm]
  | cons call calls ih =>
    rw [holdInTurn_cons_iff]
    rcases htest : s.testCondition thread call context with ⟨_ | _, s₁⟩
    · simp [failedCondition?, htest]
    · simp [failedCondition?, htest, ih]

/-- A condition that is false is the first that is. -/
theorem firstFalse_cons_of_false {head call : ConditionCall Ability}
    {calls before : List (ConditionCall Ability)} {s s₁ s' : Simulation}
    (htest : s.testCondition thread head context = (false, s₁)) :
    FirstFalse thread context (head :: calls) before call s s' ↔
      before = [] ∧ call = head ∧ s' = s₁ := by
  constructor
  · rintro ⟨hlisted, s₂, hheld, hfalse⟩
    cases before with
    | nil =>
      obtain rfl : call = head := (List.cons_prefix_cons.1 hlisted).1
      obtain rfl := holdInTurn_nil_iff.1 hheld
      exact ⟨rfl, rfl, congrArg Prod.snd (hfalse.symm.trans htest)⟩
    | cons first before =>
      obtain rfl : first = head := (List.cons_prefix_cons.1 hlisted).1
      obtain ⟨s₃, hholds, -⟩ := holdInTurn_cons_iff.1 hheld
      rw [htest] at hholds
      cases hholds
  · rintro ⟨rfl, rfl, rfl⟩
    exact ⟨⟨calls, rfl⟩, s, .nil s, htest⟩

/-- After a condition that holds, the first that is false is the first among the later ones. -/
theorem firstFalse_cons_of_true {head call : ConditionCall Ability}
    {calls before : List (ConditionCall Ability)} {s s₁ s' : Simulation}
    (htest : s.testCondition thread head context = (true, s₁)) :
    FirstFalse thread context (head :: calls) before call s s' ↔
      ∃ later, before = head :: later ∧ FirstFalse thread context calls later call s₁ s' := by
  constructor
  · rintro ⟨hlisted, s₂, hheld, hfalse⟩
    cases before with
    | nil =>
      obtain rfl : call = head := (List.cons_prefix_cons.1 hlisted).1
      obtain rfl := holdInTurn_nil_iff.1 hheld
      rw [htest] at hfalse
      cases hfalse
    | cons first before =>
      obtain ⟨rfl, hlater⟩ := List.cons_prefix_cons.1 hlisted
      obtain ⟨s₃, hholds, hheld⟩ := holdInTurn_cons_iff.1 hheld
      obtain rfl : s₁ = s₃ := congrArg Prod.snd (htest.symm.trans hholds)
      exact ⟨before, rfl, hlater, s₂, hheld, hfalse⟩
  · rintro ⟨later, rfl, hlisted, s₂, hheld, hfalse⟩
    exact ⟨List.cons_prefix_cons.2 ⟨rfl, hlisted⟩, s₂, .cons htest hheld, hfalse⟩

/-- The gate is closed by the first condition that is false in its turn. -/
theorem failedCondition?_eq_some_iff (calls : List (ConditionCall Ability)) (s s' : Simulation)
    (name : String) :
    failedCondition? thread context s calls = (some name, s') ↔
      ∃ before call, FirstFalse thread context calls before call s s' ∧
        call.condition.name = name := by
  -- The state is generalized: each condition is tested in the one that the last test left.
  induction calls generalizing s with
  | nil =>
    simp only [failedCondition?, Prod.mk.injEq, reduceCtorEq, false_and, false_iff]
    rintro ⟨before, call, hfirst, -⟩
    simpa using hfirst.listed
  | cons head calls ih =>
    rcases htest : s.testCondition thread head context with ⟨_ | _, s₁⟩
    · simp only [failedCondition?, htest, firstFalse_cons_of_false htest]
      constructor
      · intro h
        cases h
        exact ⟨[], head, ⟨rfl, rfl, rfl⟩, rfl⟩
      · rintro ⟨before, call, ⟨rfl, rfl, rfl⟩, rfl⟩
        rfl
    · simp only [failedCondition?, htest, if_true, ih, firstFalse_cons_of_true htest]
      constructor
      · rintro ⟨before, call, hfirst, hname⟩
        exact ⟨head :: before, call, ⟨before, rfl, hfirst⟩, hname⟩
      · rintro ⟨before, call, ⟨later, rfl, hfirst⟩, hname⟩
        exact ⟨later, call, hfirst, hname⟩

theorem HoldInTurn.ran {calls : List (ConditionCall Ability)} {s s' : Simulation}
    (h : HoldInTurn thread context calls s s') :
    Simulation.Ran thread (calls.map (ConditionCall.run thread context)) s s' := by
  induction h with
  | nil s => exact .refl thread s
  | cons holds _ ih => exact (Simulation.ran_testCondition holds).trans ih

theorem FirstFalse.ran {calls before : List (ConditionCall Ability)} {call : ConditionCall Ability}
    {s s' : Simulation} (h : FirstFalse thread context calls before call s s') :
    Simulation.Ran thread ((before ++ [call]).map (ConditionCall.run thread context)) s s' := by
  obtain ⟨s₁, hheld, hfalse⟩ := h.tested
  rw [List.map_append]
  exact hheld.ran.trans (Simulation.ran_testCondition hfalse)

/-- A test of a built-in condition leaves the scene and the abilities in force as they are. -/
theorem testCondition_builtin {call : ConditionCall Ability}
    (hc : call.condition ∈ Builtin.conditions) {s s' : Simulation} {answer : Bool}
    (h : s.testCondition thread call context = (answer, s')) :
    s'.scene = s.scene ∧ s'.cache = s.cache := by
  obtain rfl : _ = s' := congrArg Prod.snd h
  exact Simulation.applyEffects_of_notices (Builtin.effects_of_conditions hc _ _ _) _

theorem HoldInTurn.builtin {calls : List (ConditionCall Ability)} {s s' : Simulation}
    (h : HoldInTurn thread context calls s s')
    (hc : ∀ c ∈ calls, c.condition ∈ Builtin.conditions) :
    s'.scene = s.scene ∧ s'.cache = s.cache := by
  induction h with
  | nil s => exact ⟨rfl, rfl⟩
  | cons holds _ ih =>
    have hhead := testCondition_builtin (hc _ List.mem_cons_self) holds
    have htail := ih fun c hmem => hc c (List.mem_cons_of_mem _ hmem)
    exact ⟨htail.1.trans hhead.1, htail.2.trans hhead.2⟩

theorem FirstFalse.builtin {calls before : List (ConditionCall Ability)}
    {call : ConditionCall Ability} {s s' : Simulation}
    (h : FirstFalse thread context calls before call s s')
    (hc : ∀ c ∈ calls, c.condition ∈ Builtin.conditions) :
    s'.scene = s.scene ∧ s'.cache = s.cache := by
  obtain ⟨s₁, hheld, hfalse⟩ := h.tested
  have hbefore := hheld.builtin fun c hmem =>
    hc c (h.listed.subset (List.mem_append_left _ hmem))
  have hlast := testCondition_builtin
    (hc call (h.listed.subset (List.mem_append_right _ List.mem_cons_self))) hfalse
  exact ⟨hlast.1.trans hbefore.1, hlast.2.trans hbefore.2⟩

end Conditions

structure Opens (e : Engine) (a : Ability) (context : Context) (s s₁ : Simulation) : Prop where
  supplied : ¬ Lacks e.strict a context.capabilities
  supported : ¬ Strays e.strict a
  hold : HoldInTurn e.scheduler.callerThread context a.conditions s s₁

theorem Opens.run_eq {e : Engine} {a : Ability} {context : Context} {s s₁ : Simulation}
    (h : Opens e a context s s₁) :
    e.run a context s =
      let (done, s₂) := dispatchAll e.scheduler context a.keywords ⟨a.name, 0, 0⟩ s₁
      (.ok done, s₂.note e.scheduler.callerThread
        (.executed done.ability done.completed done.dispatched)) := by
  have hcompatible := (incompatibility?_eq_none_iff e.strict a context.capabilities).2
    ⟨h.supplied, h.supported⟩
  have hgate := (failedCondition?_eq_none_iff a.conditions s s₁).2 h.hold
  simp only [run, hcompatible, hgate]

/-- An ability is run just if its gate is open. -/
theorem run_isOk_iff (e : Engine) (a : Ability) (context : Context) (s : Simulation) :
    (e.run a context s).1.isOk = true ↔ ∃ s₁, e.Opens a context s s₁ := by
  constructor
  · intro hran
    rw [run] at hran
    split at hran
    case h_1 => cases hran
    case h_2 hcompatible =>
      obtain ⟨supplied, supported⟩ :=
        (incompatibility?_eq_none_iff e.strict a context.capabilities).1 hcompatible
      split at hran
      case h_1 => cases hran
      case h_2 s₁ hgate =>
        exact ⟨s₁, supplied, supported, (failedCondition?_eq_none_iff a.conditions s s₁).1 hgate⟩
  · rintro ⟨s₁, hopens⟩
    rw [hopens.run_eq]
    rfl

/-- What an attempt to execute an ability comes to, and the state it leaves. The cases exclude one
another: each supposes that none before it applies. -/
inductive Decision (e : Engine) (a : Ability) (context : Context) (s : Simulation) :
    Except Refusal Execution → Simulation → Prop
  | triggerMismatch (differs : context.trigger ≠ a.trigger) :
      Decision e a context s (.error (.triggerMismatch a.name a.trigger context.trigger)) s
  | missingCapability (agrees : context.trigger = a.trigger)
      (lacks : Lacks e.strict a context.capabilities) (missing : Capabilities)
      (listed : ∀ t, t ∈ missing ↔ t ∈ a.trigger.targeters ∧ t ∉ context.capabilities) :
      Decision e a context s (.error (.missingCapability a.name a.trigger missing)) s
  | unsupportedTargeter (agrees : context.trigger = a.trigger)
      (supplied : ¬ Lacks e.strict a context.capabilities) (strays : Strays e.strict a)
      (unsupported : Capabilities)
      (listed : ∀ t, t ∈ unsupported ↔ a.RefersTo t ∧ t ∉ a.trigger.targeters) :
      Decision e a context s (.error (.unsupportedTargeter a.name a.trigger unsupported)) s
  | conditionFailed (agrees : context.trigger = a.trigger)
      (supplied : ¬ Lacks e.strict a context.capabilities) (supported : ¬ Strays e.strict a)
      {before call s'}
      (first : FirstFalse e.scheduler.callerThread context a.conditions before call s s') :
      Decision e a context s (.error (.conditionFailed a.name call.condition.name)) s'
  | executed (agrees : context.trigger = a.trigger)
      (supplied : ¬ Lacks e.strict a context.capabilities) (supported : ¬ Strays e.strict a)
      {s₁ done s₂} (hold : HoldInTurn e.scheduler.callerThread context a.conditions s s₁)
      (dispatched : dispatchAll e.scheduler context a.keywords ⟨a.name, 0, 0⟩ s₁ = (done, s₂)) :
      Decision e a context s (.ok done) (s₂.note e.scheduler.callerThread
        (.executed done.ability done.completed done.dispatched))

structure Inert (e : Engine) (a : Ability) (context : Context) (s : Simulation) (refusal : Refusal)
    (s' : Simulation) : Prop where
  untouched : (∀ ability condition, refusal ≠ .conditionFailed ability condition) → s' = s
  /-- The conditions up to the one that is named were tested, each once and in order. No other body
  ran and the scheduler was not called. -/
  tested : ∀ ability condition, refusal = .conditionFailed ability condition →
    ∃ before call, call.condition.name = condition ∧
      FirstFalse e.scheduler.callerThread context a.conditions before call s s' ∧
      Simulation.Ran e.scheduler.callerThread
        ((before ++ [call]).map (ConditionCall.run e.scheduler.callerThread context)) s s'
  unscheduled : ∀ scheduler : Scheduler, scheduler.callerThread = e.scheduler.callerThread →
    tryExecute ⟨e.strict, scheduler⟩ a context s = (.error refusal, s')
  builtin : (∀ c ∈ a.conditions, c.condition ∈ Builtin.conditions) →
    s'.scene = s.scene ∧ s'.cache = s.cache

section Decision

variable {e : Engine} {a : Ability} {context : Context} {s s' : Simulation}

/-- Two sets with the same targeters are one set. -/
theorem capabilities_ext {x y : Capabilities} (h : ∀ t, t ∈ x ↔ t ∈ y) : x = y :=
  Capabilities.ext_has fun t => Bool.eq_iff_iff.2 (h t)

theorem tryExecute_of_decision {result : Except Refusal Execution}
    (h : Decision e a context s result s') : e.tryExecute a context s = (result, s') := by
  cases h with
  | triggerMismatch differs => rw [tryExecute, if_neg differs]
  | missingCapability agrees lacks missing listed =>
    have hmissing : missing = a.trigger.targeters.diff context.capabilities :=
      capabilities_ext fun t => (listed t).trans (Capabilities.mem_diff_iff _ _ t).symm
    rw [tryExecute, if_pos agrees, run, incompatibility?_of_lacks lacks, hmissing]
  | unsupportedTargeter agrees supplied strays unsupported listed =>
    have hunsupported : unsupported = a.targeters.diff a.trigger.targeters :=
      capabilities_ext fun t => by
        rw [listed, Capabilities.mem_diff_iff, a.mem_targeters_iff]
    rw [tryExecute, if_pos agrees, run, incompatibility?_of_strays supplied strays, hunsupported]
  | conditionFailed agrees supplied supported first =>
    have hgate := (failedCondition?_eq_some_iff _ _ _ _).2 ⟨_, _, first, rfl⟩
    rw [tryExecute, if_pos agrees, run,
      (incompatibility?_eq_none_iff _ _ _).2 ⟨supplied, supported⟩]
    simp only [hgate]
  | executed agrees supplied supported hold dispatched =>
    have hgate := (failedCondition?_eq_none_iff _ _ _).2 hold
    rw [tryExecute, if_pos agrees, run,
      (incompatibility?_eq_none_iff _ _ _).2 ⟨supplied, supported⟩]
    simp only [hgate, dispatched]

/-- Some case applies, whatever the ability, the context and the state. -/
theorem exists_decision (e : Engine) (a : Ability) (context : Context) (s : Simulation) :
    ∃ result s', Decision e a context s result s' := by
  by_cases agrees : context.trigger = a.trigger
  swap
  · exact ⟨_, _, .triggerMismatch agrees⟩
  by_cases lacks : Lacks e.strict a context.capabilities
  · exact ⟨_, _, .missingCapability agrees lacks _ fun t => Capabilities.mem_diff_iff _ _ t⟩
  by_cases strays : Strays e.strict a
  · refine ⟨_, _, .unsupportedTargeter agrees lacks strays (a.targeters.diff a.trigger.targeters)
      fun t => ?_⟩
    rw [Capabilities.mem_diff_iff, a.mem_targeters_iff]
  rcases hgate : failedCondition? e.scheduler.callerThread context s a.conditions with
    ⟨_ | name, s₁⟩
  · exact ⟨_, _, .executed agrees lacks strays ((failedCondition?_eq_none_iff _ _ _).1 hgate) rfl⟩
  · obtain ⟨before, call, hfirst, -⟩ := (failedCondition?_eq_some_iff _ _ _ _).1 hgate
    exact ⟨_, _, .conditionFailed agrees lacks strays hfirst⟩

theorem tryExecute_eq_iff (e : Engine) (a : Ability) (context : Context) (s : Simulation)
    (result : Except Refusal Execution) (s' : Simulation) :
    e.tryExecute a context s = (result, s') ↔ Decision e a context s result s' := by
  refine ⟨fun h => ?_, tryExecute_of_decision⟩
  -- Execution is a function, so the case that applies is the one it comes to.
  obtain ⟨result', s'', hdecision⟩ := exists_decision e a context s
  obtain ⟨rfl, rfl⟩ := Prod.mk.inj (h.symm.trans (tryExecute_of_decision hdecision))
  exact hdecision

/-- The cases of a refusal do not look at the scheduler. -/
theorem Decision.of_scheduler {refusal : Refusal} (h : Decision e a context s (.error refusal) s')
    {scheduler : Scheduler} (hthread : scheduler.callerThread = e.scheduler.callerThread) :
    Decision ⟨e.strict, scheduler⟩ a context s (.error refusal) s' := by
  cases h with
  | triggerMismatch differs => exact .triggerMismatch differs
  | missingCapability agrees lacks missing listed =>
    exact .missingCapability (e := ⟨e.strict, scheduler⟩) agrees lacks missing listed
  | unsupportedTargeter agrees supplied strays unsupported listed =>
    exact .unsupportedTargeter (e := ⟨e.strict, scheduler⟩) agrees supplied strays unsupported
      listed
  | conditionFailed agrees supplied supported first =>
    rw [← hthread] at first
    exact .conditionFailed (e := ⟨e.strict, scheduler⟩) agrees supplied supported first

theorem Decision.inert {refusal : Refusal} (h : Decision e a context s (.error refusal) s') :
    Inert e a context s refusal s' where
  untouched hother := by
    cases h with
    | conditionFailed => exact absurd rfl (hother _ _)
    | _ => rfl
  tested := by
    rintro ability condition rfl
    cases h with
    | conditionFailed agrees supplied supported first => exact ⟨_, _, rfl, first, first.ran⟩
  unscheduled scheduler hthread := tryExecute_of_decision (h.of_scheduler hthread)
  builtin hconditions := by
    cases h with
    | conditionFailed agrees supplied supported first => exact first.builtin hconditions
    | _ => exact ⟨rfl, rfl⟩

end Decision

/-- Each attempt comes to what the table of cases says, in this order of precedence; what is
reported missing or unsupported is never nothing; and a refusal has done no more than its tests. -/
theorem tryExecute_decides_before_acting (e : Engine) (a : Ability) (context : Context)
    (s : Simulation) :
    (∀ result s', e.tryExecute a context s = (result, s') ↔ Decision e a context s result s') ∧
    (∀ ability trigger missing s',
      e.tryExecute a context s = (.error (.missingCapability ability trigger missing), s') →
        ∃ t, t ∈ missing) ∧
    (∀ ability trigger unsupported s',
      e.tryExecute a context s = (.error (.unsupportedTargeter ability trigger unsupported), s') →
        ∃ t, t ∈ unsupported) ∧
    ∀ refusal s', e.tryExecute a context s = (.error refusal, s') →
      Inert e a context s refusal s' := by
  refine ⟨tryExecute_eq_iff e a context s, ?_, ?_, fun refusal s' h => ?_⟩
  · intro ability trigger missing s' h
    cases (tryExecute_eq_iff e a context s _ s').1 h with
    | missingCapability agrees lacks missing listed =>
      obtain hnone | ⟨-, t, ht⟩ := lacks
      -- Nothing at all is supplied, and every trigger declares the player.
      · have hplayer := a.trigger.player_mem_targeters
        exact ⟨.player, (listed _).2 ⟨hplayer, hnone _ hplayer⟩⟩
      · exact ⟨t, (listed t).2 ht⟩
  · intro ability trigger unsupported s' h
    cases (tryExecute_eq_iff e a context s _ s').1 h with
    | unsupportedTargeter agrees supplied strays unsupported listed =>
      obtain ⟨-, t, ht⟩ := strays
      exact ⟨t, (listed t).2 ht⟩
  · exact ((tryExecute_eq_iff e a context s _ s').1 h).inert

end Engine

end AbilityScript
