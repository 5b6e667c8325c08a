import AbilityScript.Proofs.Dispatch
import AbilityScript.Proofs.Postponed
import Mathlib.Data.List.Forall2
import Mathlib.Logic.Function.Iterate

/-!
Two executions in step. Where the conditions of two abilities give the same answers, and their
keywords do the same to every scene, each in a context of its own, the executions come to the same
result and to the same scene, and what they put off does the same whenever it is run.
-/
namespace AbilityScript

namespace Task

def SameOnScenes (task task' : Task) : Prop :=
  ∀ scene, task'.onScene scene = task.onScene scene

/-- At each place of two lists of such work there is a pair of them, and such work is left without
it, or there is nothing in either. -/
theorem sameOnScenes_at {tasks tasks' : List Task} (h : List.Forall₂ SameOnScenes tasks tasks')
    (i : Nat) :
    (tasks[i]? = none ∧ tasks'[i]? = none) ∨
      ∃ task task', tasks[i]? = some task ∧ tasks'[i]? = some task' ∧ task.SameOnScenes task' ∧
        List.Forall₂ SameOnScenes (tasks.eraseIdx i) (tasks'.eraseIdx i) := by
  induction h generalizing i with
  | nil => exact .inl ⟨rfl, rfl⟩
  | cons hhead htail ih =>
    cases i with
    | zero => exact .inr ⟨_, _, rfl, rfl, hhead, htail⟩
    | succ i =>
      rcases ih i with hnone | ⟨task, task', hat, hat', hsame, hrest⟩
      · exact .inl hnone
      · exact .inr ⟨task, task', hat, hat', hsame, .cons hhead hrest⟩

theorem inTurn_sameOnScenes {tasks tasks' : List Task}
    (h : List.Forall₂ SameOnScenes tasks tasks') (scene : Scene) :
    inTurn tasks' scene = inTurn tasks scene := by
  induction h generalizing scene with
  | nil => rfl
  | cons hhead htail ih =>
    rw [inTurn, inTurn, List.foldl_cons, List.foldl_cons, hhead scene]
    exact ih _

end Task

structure ConditionCall.SameOnScenes (context context' : Context)
    (c c' : ConditionCall Ability) : Prop where
  name : c'.condition.name = c.condition.name
  answer : ∀ scene, (c'.condition.body context' c'.arguments scene).1 =
    (c.condition.body context c.arguments scene).1
  onScene : ∀ scene, Effect.inTurn (c'.condition.body context' c'.arguments scene).2 scene =
    Effect.inTurn (c.condition.body context c.arguments scene).2 scene

structure KeywordCall.SameOnScenes (context context' : Context)
    (c c' : KeywordCall Ability) : Prop where
  isAsync : c'.keyword.isAsync = c.keyword.isAsync
  task : (Task.call c context).SameOnScenes (.call c' context')

structure Ability.SameOnScenes (context context' : Context) (a a' : Ability) : Prop where
  name : a'.name = a.name
  incompatibility : ∀ strict, Engine.incompatibility? strict a' context'.capabilities =
    Engine.incompatibility? strict a context.capabilities
  conditions : List.Forall₂ (ConditionCall.SameOnScenes context context') a.conditions a'.conditions
  keywords : List.Forall₂ (KeywordCall.SameOnScenes context context') a.keywords a'.keywords

namespace Simulation

/-- The states have the same scene, are at the same place in the answers of their scheduler, and
what waits in them does the same to every scene. -/
structure InStep (s t : Simulation) : Prop where
  scene : t.scene = s.scene
  pending : List.Forall₂ Task.SameOnScenes s.pending t.pending
  questions : t.questions = s.questions
  handovers : t.handovers = s.handovers
  pauses : t.pauses = s.pauses

namespace InStep

variable {s t s' t' : Simulation} {context context' : Context}

theorem refl (s : Simulation) : InStep s s :=
  ⟨rfl, List.forall₂_same.2 fun _ _ _ => rfl, rfl, rfl, rfl⟩

/-- Bodies that come to the same scene leave the states in step. -/
theorem of_ran {thread thread' : Thread} {runs runs' : List BodyRun} (h : InStep s t)
    (hs : Ran thread runs s s') (ht : Ran thread' runs' t t') (hscene : t'.scene = s'.scene) :
    InStep s' t' where
  scene := hscene
  pending := by
    rw [hs.pending, ht.pending]
    exact h.pending
  questions := by rw [ht.questions, h.questions, hs.questions]
  handovers := by rw [ht.handovers, h.handovers, hs.handovers]
  pauses := by rw [ht.pauses, h.pauses, hs.pauses]

theorem record (h : InStep s t) (entry entry' : Happening) :
    InStep (s.record entry) (t.record entry') :=
  ⟨h.scene, h.pending, h.questions, h.handovers, h.pauses⟩

/-- Work that is run moves nothing but the scene. -/
theorem runTask (h : InStep s t) (thread : Thread) {task task' : Task}
    (htask : task.SameOnScenes task') :
    InStep (s.runTask thread task) (t.runTask thread task') := by
  have hscene : (t.runTask thread task').scene = (s.runTask thread task).scene := by
    rw [scene_runTask, scene_runTask, h.scene, htask]
  have hran : ∀ (u : Simulation) (task : Task), (u.runTask thread task).questions = u.questions ∧
      (u.runTask thread task).handovers = u.handovers ∧
      (u.runTask thread task).pauses = u.pauses := by
    intro u task
    cases task with
    | call c context =>
      have hbody := ran_runKeyword thread c context u
      exact ⟨hbody.questions, hbody.handovers, hbody.pauses⟩
    | mark isAsync tag => exact ⟨rfl, rfl, rfl⟩
  obtain ⟨hquestions, hhandovers, hpauses⟩ := hran s task
  obtain ⟨hquestions', hhandovers', hpauses'⟩ := hran t task'
  refine ⟨hscene, ?_, ?_, ?_, ?_⟩
  · rw [pending_runTask, pending_runTask]
    exact h.pending
  · rw [hquestions', h.questions, hquestions]
  · rw [hhandovers', h.handovers, hhandovers]
  · rw [hpauses', h.pauses, hpauses]

theorem testCondition (h : InStep s t) (thread : Thread) {call call' : ConditionCall Ability}
    (hcall : call.SameOnScenes context context' call') :
    (t.testCondition thread call' context').1 = (s.testCondition thread call context).1 ∧
      InStep (s.testCondition thread call context).2 (t.testCondition thread call' context').2 := by
  refine ⟨?_, h.of_ran (ran_testCondition rfl) (ran_testCondition rfl) ?_⟩
  · show (call'.condition.body context' call'.arguments t.scene).1 =
      (call.condition.body context call.arguments s.scene).1
    rw [h.scene, hcall.answer]
  · show (applyEffects thread (call'.condition.body context' call'.arguments t.scene).2
        (t.record (.ran (call'.run thread context')))).scene =
      (applyEffects thread (call.condition.body context call.arguments s.scene).2
        (s.record (.ran (call.run thread context)))).scene
    rw [scene_applyEffects, scene_applyEffects]
    show Effect.inTurn (call'.condition.body context' call'.arguments t.scene).2 t.scene =
      Effect.inTurn (call.condition.body context call.arguments s.scene).2 s.scene
    rw [h.scene, hcall.onScene]

theorem spawn (h : InStep s t) {task task' : Task} (htask : task.SameOnScenes task') :
    InStep (s.spawn task) (t.spawn task') :=
  ⟨h.scene, List.rel_append h.pending (.cons htask .nil), h.questions, h.handovers, h.pauses⟩

theorem ask (h : InStep s t) (sched : Scheduler) : InStep (s.ask sched).2 (t.ask sched).2 :=
  ⟨h.scene, h.pending, congrArg (· + 1) h.questions, h.handovers, h.pauses⟩

theorem handOver (h : InStep s t) (sched : Scheduler) {task task' : Task}
    (htask : task.SameOnScenes task') :
    InStep (s.handOver sched task) (t.handOver sched task') := by
  have hcounted : InStep ({ s with handovers := s.handovers + 1 }.record .handedOver)
      ({ t with handovers := t.handovers + 1 }.record .handedOver) :=
    ⟨h.scene, h.pending, h.questions, congrArg (· + 1) h.handovers, h.pauses⟩
  rw [Simulation.handOver, Simulation.handOver, h.handovers]
  rw [h.handovers] at hcounted
  split
  · exact hcounted.runTask sched.primaryThread htask
  · split
    · exact hcounted.record _ _
    · exact hcounted

theorem runPending (h : InStep s t) (sched : Scheduler) (i : Nat) :
    InStep (s.runPending sched i) (t.runPending sched i) := by
  rcases Task.sameOnScenes_at h.pending i with ⟨hnone, hnone'⟩ |
    ⟨task, task', hat, hat', htask, hrest⟩
  · simp only [Simulation.runPending, hnone, hnone']
    exact h
  · simp only [Simulation.runPending, hat, hat']
    have htaken : InStep { s with pending := s.pending.eraseIdx i }
        { t with pending := t.pending.eraseIdx i } :=
      ⟨h.scene, hrest, h.questions, h.handovers, h.pauses⟩
    exact htaken.runTask sched.workerThread htask

theorem pause (h : InStep s t) (sched : Scheduler) : InStep (s.pause sched) (t.pause sched) := by
  have hpicks : ∀ (picks : List Nat) {s t : Simulation}, InStep s t →
      InStep (picks.foldl (Simulation.runPending sched) s)
        (picks.foldl (Simulation.runPending sched) t) := by
    -- The same positions are picked on both sides, so the states stay in step along the picks.
    intro picks
    induction picks with
    | nil =>
      intro s t h
      exact h
    | cons i picks ih =>
      intro s t h
      exact ih (h.runPending sched i)
  rw [Simulation.pause, Simulation.pause, h.pauses]
  exact hpicks _ ⟨h.scene, h.pending, h.questions, h.handovers, rfl⟩

theorem pauses_iterate (h : InStep s t) (sched : Scheduler) (n : Nat) :
    InStep ((Simulation.pause sched)^[n] s) ((Simulation.pause sched)^[n] t) := by
  induction n generalizing s t with
  | zero => exact h
  | succ n ih => exact ih (h.pause sched)

/-- Once all that waits has run, the scenes are the same as well. -/
theorem scene_flush (h : InStep s t) (sched : Scheduler) :
    (t.flush sched).scene = (s.flush sched).scene := by
  rw [Simulation.scene_flush, Simulation.scene_flush, settled, settled, h.scene]
  exact Task.inTurn_sameOnScenes h.pending s.scene

theorem afterKeyword (h : InStep s t) (sched : Scheduler) {c c' : KeywordCall Ability}
    (hc : c.SameOnScenes context context' c') :
    InStep (Engine.afterKeyword sched context s c) (Engine.afterKeyword sched context' t c') := by
  rw [Engine.afterKeyword, Engine.afterKeyword, hc.isAsync, h.questions]
  split
  · exact h.spawn hc.task
  · split
    · exact (h.ask sched).runTask sched.callerThread hc.task
    · exact (h.ask sched).handOver sched hc.task

end InStep

end Simulation

namespace Engine

open Simulation

variable {s t : Simulation} {context context' : Context}

theorem failedCondition?_inStep (thread : Thread) {calls calls' : List (ConditionCall Ability)}
    (hcalls : List.Forall₂ (ConditionCall.SameOnScenes context context') calls calls')
    (h : InStep s t) :
    (failedCondition? thread context' t calls').1 = (failedCondition? thread context s calls).1 ∧
      InStep (failedCondition? thread context s calls).2
        (failedCondition? thread context' t calls').2 := by
  induction hcalls generalizing s t with
  | nil => exact ⟨rfl, h⟩
  | cons hcall _ ih =>
    obtain ⟨hanswer, hafter⟩ := h.testCondition thread hcall
    simp only [failedCondition?, hanswer, hcall.name]
    -- The answers agree, so both sides stop here or neither does.
    split
    · exact ih hafter
    · exact ⟨rfl, hafter⟩

theorem tally_eq_of_sameOnScenes (done : Execution) {calls calls' : List (KeywordCall Ability)}
    (hcalls : List.Forall₂ (KeywordCall.SameOnScenes context context') calls calls') :
    done.tally calls' = done.tally calls := by
  induction hcalls generalizing done with
  | nil => rfl
  | @cons c c' calls calls' hcall _ ih =>
    have hfirst : done.tally [c'] = done.tally [c] := by
      simp only [Execution.tally, Ability.synchronous, Ability.asynchronous, List.filter_cons,
        List.filter_nil, hcall.isAsync]
      cases c.keyword.isAsync <;> rfl
    calc done.tally (c' :: calls')
        = (done.tally [c']).tally calls' := (tally_tally done [c'] calls').symm
      _ = (done.tally [c]).tally calls := by rw [hfirst, ih]
      _ = done.tally (c :: calls) := tally_tally done [c] calls

theorem dispatchAll_inStep (sched : Scheduler) {calls calls' : List (KeywordCall Ability)}
    (hcalls : List.Forall₂ (KeywordCall.SameOnScenes context context') calls calls')
    (done : Execution) (h : InStep s t) :
    (dispatchAll sched context' calls' done t).1 = (dispatchAll sched context calls done s).1 ∧
      InStep (dispatchAll sched context calls done s).2
        (dispatchAll sched context' calls' done t).2 := by
  rw [dispatchAll_eq, dispatchAll_eq]
  refine ⟨tally_eq_of_sameOnScenes done hcalls, ?_⟩
  induction hcalls generalizing s t with
  | nil => exact h
  | cons hcall _ ih => exact ih ((h.afterKeyword sched hcall).pause sched)

/-- Abilities that agree call by call come to the same result, and their executions stay in step. -/
theorem run_inStep (e : Engine) {a a' : Ability} (ha : a.SameOnScenes context context' a')
    (h : InStep s t) :
    (e.run a' context' t).1 = (e.run a context s).1 ∧
      InStep (e.run a context s).2 (e.run a' context' t).2 := by
  obtain ⟨hfailed, htested⟩ :=
    failedCondition?_inStep e.scheduler.callerThread ha.conditions h
  -- A run may end in three places, and both runs end in the same.
  cases hcompatible : incompatibility? e.strict a context.capabilities with
  | some refusal =>
    simp only [run, ha.incompatibility, hcompatible]
    exact ⟨trivial, h⟩
  | none =>
    rcases hs : failedCondition? e.scheduler.callerThread context s a.conditions with ⟨failed, s₁⟩
    rcases ht : failedCondition? e.scheduler.callerThread context' t a'.conditions with
      ⟨failed', t₁⟩
    simp only [hs, ht] at hfailed htested
    subst hfailed
    cases failed' with
    | some name =>
      simp only [run, ha.incompatibility, hcompatible, hs, ht, ha.name]
      exact ⟨trivial, htested⟩
    | none =>
      obtain ⟨hdone, hran⟩ := dispatchAll_inStep e.scheduler ha.keywords ⟨a.name, 0, 0⟩ htested
      simp only [run, ha.incompatibility, hcompatible, hs, ht, ha.name, hdone]
      exact ⟨trivial, hran.record _ _⟩

end Engine

end AbilityScript
