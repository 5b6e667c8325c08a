import AbilityScript.Proofs.CompiledLines
import AbilityScript.Proofs.EventSubjects
import AbilityScript.Proofs.Postponed
import AbilityScript.Proofs.RefusalDecision
import AbilityScript.Proofs.RegistryHistory

/-!
Schedulers cannot be told apart by built-in functions. Whenever asynchronous work is run, and on
whatever threads the rest is, each execution comes to the same result, and in the end the scenes
differ in the order within inboxes at most.
-/
namespace AbilityScript

structure Ability.OfBuiltins (a : Ability) : Prop where
  keywords : ∀ c ∈ a.keywords, c.keyword ∈ Builtin.keywords
  conditions : ∀ c ∈ a.conditions, c.condition ∈ Builtin.conditions

/-- What compiles with the built-in registry has no other functions. -/
theorem Ability.ofBuiltins_of_produces {a : Ability}
    (h : Registry.withBuiltins.registry.Produces a) : a.OfBuiltins := by
  refine ⟨fun c hc => ?_, fun c hc => ?_⟩
  · obtain ⟨text, htext⟩ := h.lines.1 c hc
    obtain ⟨name, hname⟩ := Compile.find?_of_line (Compile.line_of_keywordLine htext)
    exact Registry.mem_withBuiltins.1 _ (NameMap.mem_items_of_get? hname)
  · obtain ⟨text, htext⟩ := h.lines.2 c hc
    obtain ⟨name, hname⟩ := Compile.find?_of_line (Compile.line_of_conditionLine htext)
    exact Registry.mem_withBuiltins.2 _ (NameMap.mem_items_of_get? hname)

def AbilitySet.OfBuiltins (set : AbilitySet) : Prop :=
  ∀ a ∈ set.items, a.OfBuiltins

/-- What is asked of an engine from outside: executions, and between them other abilities to be put
in force and opportunities for waiting work to run. -/
inductive Command where
  | dispatch (strict : Bool) (event : Event) (name : String)
  | executeByName (strict : Bool) (name : String) (player : EntityId)
  | reload (set : AbilitySet)
  | pause

namespace Command

def run (sched : Scheduler) (s : Simulation) :
    Command → Option (Except Refusal Execution) × Simulation
  | dispatch strict event name => (Engine.dispatch ⟨strict, sched⟩ event name s).map some id
  | executeByName strict name player =>
    (Engine.executeByName ⟨strict, sched⟩ name player s).map some id
  | reload set => (none, (s.reload sched.callerThread set).2)
  | pause => (none, s.pause sched)

def runAll (sched : Scheduler) :
    List Command → Simulation → List (Option (Except Refusal Execution)) × Simulation
  | [], s => ([], s)
  | command :: rest, s =>
    let (result, s') := command.run sched s
    let (results, s'') := runAll sched rest s'
    (result :: results, s'')

end Command

namespace Simulation

/-- The states differ in no more than what has been put off: once it is settled they are the same,
up to the order of inboxes unless all was delivered in order. -/
structure Alike (inOrder : Prop) (s t : Simulation) : Prop where
  cache : s.cache = t.cache
  builtin : s.cache.set.OfBuiltins
  messages : ∀ task ∈ s.pending, task.IsMessage
  messages' : ∀ task ∈ t.pending, task.IsMessage
  settled : s.settled.SameUpToInboxOrder t.settled
  exact : inOrder → s.settled = t.settled

namespace Alike

variable {inOrder : Prop} {s s' t t' : Simulation}

/-- Where both states go through the same, they stay alike. -/
theorem step (h : Alike inOrder s t) {p p' : Prop} {f : Scene → Scene} (hs : Settles p f s s')
    (ht : Settles p' f t t') (hp : inOrder → p ∧ p')
    (hf : ∀ scene scene', scene.SameUpToInboxOrder scene' →
      (f scene).SameUpToInboxOrder (f scene')) : Alike inOrder s' t' where
  cache := by rw [hs.cache, ht.cache, h.cache]
  builtin := by
    rw [hs.cache]
    exact h.builtin
  messages := hs.messages
  messages' := ht.messages
  settled := (hs.alike.symm.trans (hf _ _ h.settled)).trans ht.alike
  exact hin := by
    obtain ⟨hleft, hright⟩ := hp hin
    rw [← hs.exact hleft, ← ht.exact hright, h.exact hin]

/-- Bodies cannot tell the scenes apart. -/
theorem withoutInboxes_eq (h : Alike inOrder s t) :
    s.scene.withoutInboxes = t.scene.withoutInboxes := by
  have hs := Task.withoutInboxes_inTurn h.messages s.scene
  have ht := Task.withoutInboxes_inTurn h.messages' t.scene
  rw [← hs, ← ht]
  exact h.settled.withoutInboxes_eq

end Alike

end Simulation

namespace Engine

open Simulation

variable {inOrder : Prop} {s t : Simulation} {context : Context}

/-- Built-in conditions do not tell apart scenes that differ in their inboxes. -/
theorem failedCondition?_eq_of_withoutInboxes {calls : List (ConditionCall Ability)}
    (hc : ∀ c ∈ calls, c.condition ∈ Builtin.conditions) (thread thread' : Thread)
    (h : s.scene.withoutInboxes = t.scene.withoutInboxes) :
    (failedCondition? thread context s calls).1 = (failedCondition? thread' context t calls).1 := by
  -- A test leaves the scene as it was, so the scenes stay alike from one test to the next.
  induction calls generalizing s t with
  | nil => rfl
  | cons call calls ih =>
    have hcall := hc call List.mem_cons_self
    have hlater : ∀ other ∈ calls, other.condition ∈ Builtin.conditions := fun other hother =>
      hc other (List.mem_cons_of_mem _ hother)
    have hbody : call.condition.body context call.arguments s.scene =
        call.condition.body context call.arguments t.scene := by
      rw [← Builtin.answer_withoutInboxes hcall, h, Builtin.answer_withoutInboxes hcall]
    rcases hs : s.testCondition thread call context with ⟨answer, s₁⟩
    rcases ht : t.testCondition thread' call context with ⟨answer', t₁⟩
    have hanswer : answer = answer' := by
      have hleft : (call.condition.body context call.arguments s.scene).1 = answer :=
        congrArg Prod.fst hs
      have hright : (call.condition.body context call.arguments t.scene).1 = answer' :=
        congrArg Prod.fst ht
      rw [← hleft, ← hright, hbody]
    have hscenes : s₁.scene.withoutInboxes = t₁.scene.withoutInboxes := by
      rw [(testCondition_builtin hcall hs).1, (testCondition_builtin hcall ht).1]
      exact h
    cases hanswer
    simp only [failedCondition?, hs, ht]
    split
    · exact ih hlater hscenes
    · rfl

/-- No test of a condition puts work off. -/
theorem pending_failedCondition? (thread : Thread) (context : Context) (s : Simulation)
    (calls : List (ConditionCall Ability)) :
    (failedCondition? thread context s calls).2.pending = s.pending := by
  rcases hgate : failedCondition? thread context s calls with ⟨_ | name, s'⟩
  · exact ((failedCondition?_eq_none_iff _ _ _).1 hgate).ran.pending
  · obtain ⟨before, call, hfirst, -⟩ := (failedCondition?_eq_some_iff _ _ _ _).1 hgate
    exact hfirst.ran.pending

/-- Tests of built-in conditions settle nothing. -/
theorem settles_failedCondition? {calls : List (ConditionCall Ability)}
    (hc : ∀ c ∈ calls, c.condition ∈ Builtin.conditions) (thread : Thread)
    (hmessages : ∀ task ∈ s.pending, task.IsMessage) :
    Settles inOrder id s (failedCondition? thread context s calls).2 := by
  have hpending := pending_failedCondition? thread context s calls
  obtain ⟨hscene, hcache⟩ : (failedCondition? thread context s calls).2.scene = s.scene ∧
      (failedCondition? thread context s calls).2.cache = s.cache := by
    rcases hgate : failedCondition? thread context s calls with ⟨_ | name, s'⟩
    · exact ((failedCondition?_eq_none_iff _ _ _).1 hgate).builtin hc
    · obtain ⟨before, call, hfirst, -⟩ := (failedCondition?_eq_some_iff _ _ _ _).1 hgate
      exact hfirst.builtin hc
  refine .of_eq hcache ?_ ?_
  · rw [hpending]
    exact hmessages
  · rw [settled, settled, hpending, hscene]
    rfl

variable {sched sched' : Scheduler} (haccepts : ∀ n, sched.accepts n = true)
  (haccepts' : ∀ n, sched'.accepts n = true) (horder : inOrder → sched.InOrder ∧ sched'.InOrder)
include haccepts haccepts' horder

/-- An ability of built-in functions comes to the same result in states that are alike, and leaves
them alike. -/
theorem run_alike (strict : Bool) {a : Ability} (ha : a.OfBuiltins) (context : Context)
    (h : Alike inOrder s t) :
    (run ⟨strict, sched⟩ a context s).1 = (run ⟨strict, sched'⟩ a context t).1 ∧
      Alike inOrder (run ⟨strict, sched⟩ a context s).2 (run ⟨strict, sched'⟩ a context t).2 := by
  cases hcompatible : incompatibility? strict a context.capabilities with
  | some refusal =>
    simp only [run, hcompatible]
    exact ⟨trivial, h⟩
  | none =>
    -- The gate reads no inbox, so it is open in both states or closed by the same condition.
    have hgate : (failedCondition? sched.callerThread context s a.conditions).1 =
        (failedCondition? sched'.callerThread context t a.conditions).1 :=
      failedCondition?_eq_of_withoutInboxes ha.conditions _ _ h.withoutInboxes_eq
    have hs : Settles sched.InOrder id s
        (failedCondition? sched.callerThread context s a.conditions).2 :=
      settles_failedCondition? ha.conditions sched.callerThread h.messages
    have ht : Settles sched'.InOrder id t
        (failedCondition? sched'.callerThread context t a.conditions).2 :=
      settles_failedCondition? ha.conditions sched'.callerThread h.messages'
    rcases hfailed : failedCondition? sched.callerThread context s a.conditions with ⟨failed, s₁⟩
    rcases hfailed' : failedCondition? sched'.callerThread context t a.conditions with
      ⟨failed', t₁⟩
    simp only [hfailed, hfailed'] at hgate hs ht
    cases hgate
    have htested : Alike inOrder s₁ t₁ := h.step hs ht horder fun _ _ hscene => hscene
    cases failed with
    | some name =>
      simp only [run, hcompatible, hfailed, hfailed']
      exact ⟨trivial, htested⟩
    | none =>
      have hkeywords : ∀ task ∈ a.keywords.map fun c => Task.call c context, task.IsBuiltin := by
        intro task htask
        obtain ⟨c, hc, rfl⟩ := List.mem_map.1 htask
        exact ⟨c, context, rfl, ha.keywords c hc⟩
      have hran : Alike inOrder _ _ := htested.step
        (settles_dispatchAll haccepts ha.keywords ⟨a.name, 0, 0⟩ htested.messages)
        (settles_dispatchAll haccepts' ha.keywords ⟨a.name, 0, 0⟩ htested.messages') horder
        fun _ _ hscene => Task.inTurn_sameUpToInboxOrder hkeywords hscene
      simp only [run, hcompatible, hfailed, hfailed', dispatchAll_eq] at hran ⊢
      exact ⟨trivial, hran.cache, hran.builtin, hran.messages, hran.messages', hran.settled,
        hran.exact⟩

end Engine

namespace Command

open Simulation

section Alike

variable {inOrder : Prop} {sched sched' : Scheduler} (haccepts : ∀ n, sched.accepts n = true)
  (haccepts' : ∀ n, sched'.accepts n = true) (horder : inOrder → sched.InOrder ∧ sched'.InOrder)
include haccepts haccepts' horder

/-- A command comes to the same result in states that are alike, and leaves them alike. -/
theorem run_alike {command : Command}
    (hreload : ∀ set, command = .reload set → set.OfBuiltins) {s t : Simulation}
    (h : Alike inOrder s t) :
    (command.run sched s).1 = (command.run sched' t).1 ∧
      Alike inOrder (command.run sched s).2 (command.run sched' t).2 := by
  cases command with
  | dispatch strict event name =>
    rw [run, run]
    cases hfound : s.cache.set.get? name with
    | none =>
      rw [Engine.dispatch_of_missing hfound, Engine.dispatch_of_missing (h.cache ▸ hfound)]
      exact ⟨rfl, h⟩
    | some a =>
      have hfound' : t.cache.set.get? name = some a := h.cache ▸ hfound
      by_cases htrigger : a.trigger = event.trigger
      · obtain ⟨hresult, hafter⟩ := Engine.run_alike haccepts haccepts' horder strict
          (h.builtin a (NameMap.mem_items_of_get? hfound)) (event.context name) h
        rw [Engine.dispatch_of_trigger hfound htrigger, Engine.dispatch_of_trigger hfound' htrigger]
        exact ⟨congrArg some hresult, hafter⟩
      · rw [Engine.dispatch_of_other_trigger hfound htrigger,
          Engine.dispatch_of_other_trigger hfound' htrigger]
        exact ⟨rfl, h⟩
  | executeByName strict name player =>
    simp only [run, Engine.executeByName, ← h.cache]
    cases hfound : s.cache.set.get? name with
    | none => exact ⟨rfl, h⟩
    | some a =>
      have ha := h.builtin a (NameMap.mem_items_of_get? hfound)
      obtain ⟨hresult, hafter⟩ := Engine.run_alike haccepts haccepts' horder strict ha
        ⟨name, .unbound, player, .base⟩ h
      exact ⟨congrArg some hresult, hafter⟩
  | reload set =>
    have hcache : (⟨set, s.cache.version + 1⟩ : Cache) = ⟨set, t.cache.version + 1⟩ := by
      rw [h.cache]
    exact ⟨rfl, hcache, hreload set rfl, h.messages, h.messages', h.settled, h.exact⟩
  | pause =>
    have hs : Settles sched.InOrder id s (s.pause sched) := settles_pause h.messages
    have ht : Settles sched'.InOrder id t (t.pause sched') := settles_pause h.messages'
    exact ⟨rfl, h.step hs ht horder fun _ _ hscene => hscene⟩

/-- Commands come to the same results in states that are alike, and leave them alike. -/
theorem runAll_alike {commands : List Command}
    (hreload : ∀ set, Command.reload set ∈ commands → set.OfBuiltins) {s t : Simulation}
    (h : Alike inOrder s t) :
    (runAll sched commands s).1 = (runAll sched' commands t).1 ∧
      Alike inOrder (runAll sched commands s).2 (runAll sched' commands t).2 := by
  induction commands generalizing s t with
  | nil => exact ⟨rfl, h⟩
  | cons command commands ih =>
    have hnow : ∀ set, command = .reload set → set.OfBuiltins := fun set hset =>
      hreload set (hset ▸ List.mem_cons_self)
    obtain ⟨hresult, hafter⟩ := run_alike haccepts haccepts' horder hnow h
    obtain ⟨hresults, hend⟩ := ih
      (fun set hset => hreload set (List.mem_cons_of_mem _ hset)) hafter
    simp only [runAll]
    exact ⟨by rw [hresult, hresults], hend⟩

end Alike

section Prompt

variable {sched : Scheduler} {s : Simulation} (hprompt : ∀ n, sched.picks n = [0])
include hprompt

/-- At a pause, one piece of work that waits is run. -/
theorem pending_pause_of_prompt (h : s.pending.length ≤ 1) : (s.pause sched).pending = [] := by
  rw [Simulation.pause, hprompt]
  show (Simulation.runPending sched { s with pauses := s.pauses + 1 } 0).pending = []
  cases hlist : s.pending with
  | nil => simp only [runPending, List.getElem?_nil]
  | cons task rest =>
    rw [hlist, List.length_cons] at h
    have hrest : rest = [] := List.eq_nil_of_length_eq_zero (by omega)
    simp only [runPending, List.getElem?_cons_zero, pending_runTask, List.eraseIdx_cons_zero,
      hrest]

theorem pending_dispatchAll_of_prompt {context : Context} (calls : List (KeywordCall Ability))
    (done : Execution) (h : s.pending = []) :
    (Engine.dispatchAll sched context calls done s).2.pending = [] := by
  rw [Engine.dispatchAll_eq]
  induction calls generalizing s with
  | nil => exact h
  | cons c calls ih =>
    refine ih (pending_pause_of_prompt hprompt ?_)
    rw [pending_afterKeyword, h]
    split
    · exact Nat.le_refl 1
    · exact Nat.zero_le 1

theorem pending_run_of_prompt (strict : Bool) (a : Ability) (context : Context)
    (h : s.pending = []) : (Engine.run ⟨strict, sched⟩ a context s).2.pending = [] := by
  rw [Engine.run]
  split
  · exact h
  · have hgate := Engine.pending_failedCondition? sched.callerThread context s a.conditions
    split
    case h_1 condition s' hfailed =>
      rw [hfailed] at hgate
      exact hgate.trans h
    case h_2 s' hheld =>
      rw [hheld] at hgate
      exact pending_dispatchAll_of_prompt hprompt _ _ (hgate.trans h)

/-- Where work is run as soon as it is handed over, none waits between commands. -/
theorem pending_runAll_of_prompt (commands : List Command) (h : s.pending = []) :
    (runAll sched commands s).2.pending = [] := by
  induction commands generalizing s with
  | nil => exact h
  | cons command commands ih =>
    refine ih ?_
    cases command with
    | dispatch strict event name =>
      show (Engine.dispatch ⟨strict, sched⟩ event name s).2.pending = []
      rw [Engine.dispatch]
      split
      · exact h
      · rw [Engine.tryExecute]
        repeat' split
        · exact pending_run_of_prompt hprompt strict _ _ h
        · exact h
        · exact h
    | executeByName strict name player =>
      show (Engine.executeByName ⟨strict, sched⟩ name player s).2.pending = []
      rw [Engine.executeByName]
      split
      · exact h
      · exact pending_run_of_prompt hprompt strict _ _ h
    | reload set => exact h
    | pause => exact pending_pause_of_prompt hprompt (by rw [h]; exact Nat.zero_le 1)

end Prompt

/-- Abilities of built-in functions do not show when asynchronous work is run: any scheduler that
does the work it is given, whenever it does the asynchronous part of it, gives the results that
immediate execution gives, and in the end the same scene up to the order within inboxes, or the very
same scene if that work is done in the order in which it was handed over. -/
theorem deferral_unobservable (sched : Scheduler) (haccepts : ∀ n, sched.accepts n = true)
    (commands : List Command) (hreload : ∀ set, Command.reload set ∈ commands → set.OfBuiltins)
    (s : Simulation) (hset : s.cache.set.OfBuiltins) (hpending : s.pending = []) :
    (runAll .inline commands s).1 = (runAll sched commands s).1 ∧
    (runAll .inline commands s).2.pending = [] ∧
    (runAll .inline commands s).2.scene.SameUpToInboxOrder
      ((runAll sched commands s).2.flush sched).scene ∧
    (sched.InOrder →
      (runAll .inline commands s).2.scene = ((runAll sched commands s).2.flush sched).scene) := by
  have hmessages : ∀ task ∈ s.pending, task.IsMessage := by
    rw [hpending]
    exact fun task htask => absurd htask List.not_mem_nil
  have hstart : Alike sched.InOrder s s :=
    ⟨rfl, hset, hmessages, hmessages, .refl _, fun _ => rfl⟩
  have hinline : Scheduler.inline.InOrder := fun n i hi => List.mem_singleton.1 hi
  obtain ⟨hresults, hend⟩ :
      (runAll .inline commands s).1 = (runAll sched commands s).1 ∧
        Alike sched.InOrder (runAll .inline commands s).2 (runAll sched commands s).2 :=
    runAll_alike (fun _ => rfl) haccepts (fun hin => ⟨hinline, hin⟩) hreload hstart
  have hnone : (runAll .inline commands s).2.pending = [] :=
    pending_runAll_of_prompt (fun _ => rfl) commands hpending
  -- With nothing left to deliver, the scene of the immediate run is settled as it is.
  have hsettled : (runAll .inline commands s).2.settled = (runAll .inline commands s).2.scene := by
    rw [settled, hnone]
    rfl
  refine ⟨hresults, hnone, ?_, fun hin => ?_⟩
  · rw [scene_flush, ← hsettled]
    exact hend.settled
  · rw [scene_flush, ← hsettled]
    exact hend.exact hin

def outcry : Ability where
  name := "outcry"
  trigger := .damageTaken
  keywords := [⟨Builtin.message, ⟨[.targeter .player, .string "Ouch"]⟩⟩,
    ⟨Builtin.lightning, ⟨[.targeter .entity]⟩⟩]
  conditions := [⟨Builtin.isTime, ⟨[.member (TimeOfDay.enumeration.value .day)]⟩⟩]
  timer := none

def belated : Scheduler where
  onPrimary := fun n => n == 1
  accepts := fun _ => true
  lossReason? := none
  picks := fun n => if n = 4 then [1, 0] else []
  callerThread := .caller
  primaryThread := .primary
  workerThread := .worker

/-- Two attacks, and messages that come late and in the wrong order. -/
theorem deferral_unobservable_outcry :
    let attacks : List Command := [.dispatch true (.damageTaken 0 1) "outcry",
      .dispatch false (.damageTaken 1 0) "outcry", .pause]
    let s : Simulation := { Simulation.new (.ofList [] (.new "")) with
      cache := ⟨.ofAbilities [outcry], 1⟩ }
    Registry.withBuiltins.registry.Produces outcry ∧
    (runAll belated attacks s).1 =
      [some (.ok ⟨"outcry", 1, 1⟩), some (.ok ⟨"outcry", 1, 1⟩), none] ∧
    (runAll .inline attacks s).1 = (runAll belated attacks s).1 ∧
    (runAll .inline attacks s).2.scene.SameUpToInboxOrder
      ((runAll belated attacks s).2.flush belated).scene := by
  intro attacks s
  have hproduced : Registry.withBuiltins.registry.Produces outcry :=
    .inr ⟨"outcry", ⟨"damage-taken", ["message(?player, Ouch)", "lightning(?entity)"],
      ["istime(day)"], none⟩, _,
      (Registry.compile_eq_ok_iff _ _ _ _).2 ⟨.damageTaken, none, by decide, rfl, rfl⟩, rfl⟩
  have hset : s.cache.set.OfBuiltins := by
    intro a ha
    obtain rfl : a = outcry := List.mem_singleton.1 ha
    exact Ability.ofBuiltins_of_produces hproduced
  have hreload : ∀ set, Command.reload set ∈ attacks → set.OfBuiltins := by
    intro set hmem
    simp [attacks] at hmem
  obtain ⟨hresults, -, hscene, -⟩ := deferral_unobservable belated (fun _ => rfl) attacks hreload s
    hset rfl
  exact ⟨hproduced, by decide +kernel, hresults, hscene⟩

end Command

end AbilityScript
