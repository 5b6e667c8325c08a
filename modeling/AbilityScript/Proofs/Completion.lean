import AbilityScript.Host
import AbilityScript.Proofs.Dispatch
import AbilityScript.Proofs.RefusalDecision
import AbilityScript.Proofs.Transcript

namespace AbilityScript

def BodyRun.isCompletion (workers : Thread) (run : BodyRun) : Bool :=
  run.kind == .keywords && run.thread != workers

namespace Scheduler

/-- Nothing but asynchronous work runs on the threads for it. -/
structure KeepsWorkersApart (sched : Scheduler) : Prop where
  primary : sched.primaryThread ≠ sched.workerThread
  caller : ∀ n, sched.onPrimary n = true → sched.callerThread ≠ sched.workerThread

def losses (sched : Scheduler) (handovers : Nat) : Nat :=
  (List.range handovers).countP fun n => !sched.accepts n

theorem losses_succ (sched : Scheduler) (n : Nat) :
    sched.losses (n + 1) = sched.losses n + if sched.accepts n then 0 else 1 := by
  rw [losses, List.range_succ, List.countP_append, List.countP_singleton, losses]
  cases sched.accepts n <;> rfl

theorem losses_mono (sched : Scheduler) {m n : Nat} (h : m ≤ n) :
    sched.losses m ≤ sched.losses n := by
  induction h with
  | refl => exact Nat.le_refl _
  | step _ ih =>
    rw [Nat.succ_eq_add_one, losses_succ]
    omega

/-- Nothing is lost from one handover to another just if each of those between is accepted. -/
theorem losses_eq_iff (sched : Scheduler) {m n : Nat} (h : m ≤ n) :
    sched.losses n = sched.losses m ↔ ∀ k, m ≤ k → k < n → sched.accepts k = true := by
  induction h with
  | refl => exact ⟨fun _ k hk hk' => absurd hk' (by omega), fun _ => rfl⟩
  | @step n hmn ih =>
    have hmn : m ≤ n := hmn
    have hmono := sched.losses_mono hmn
    rw [Nat.succ_eq_add_one, losses_succ]
    constructor
    · intro hlosses k hk hkn
      by_cases haccepts : sched.accepts n = true
      · rw [if_pos haccepts] at hlosses
        rcases Nat.lt_succ_iff_lt_or_eq.1 hkn with hlt | rfl
        · exact ih.1 (by omega) k hk hlt
        · exact haccepts
      -- A handover in vain would have been counted.
      · rw [if_neg haccepts] at hlosses
        omega
    · intro haccepts
      rw [if_pos (haccepts n hmn (by omega)), Nat.add_zero]
      exact ih.2 fun k hk hkn => haccepts k hk (by omega)

end Scheduler

namespace Simulation

def completions (workers : Thread) (s : Simulation) : Nat :=
  (s.transcript.filterMap Happening.run?).countP (BodyRun.isCompletion workers)

/-- From `s` to `s'`, so many keywords ran and so many were handed over in vain. A caller who is
never on the primary thread handed all of them over. -/
structure Adds (sched : Scheduler) (ran lost : Nat) (s s' : Simulation) : Prop where
  completions : s'.completions sched.workerThread = s.completions sched.workerThread + ran
  losses : sched.losses s'.handovers = sched.losses s.handovers + lost
  handovers : s.handovers ≤ s'.handovers
  outside : (∀ n, sched.onPrimary n = false) → s'.handovers = s.handovers + (ran + lost)

variable {sched : Scheduler} {context : Context} {s s' s'' : Simulation}

namespace Adds

variable {ran lost ran' lost' : Nat}

theorem refl (sched : Scheduler) (s : Simulation) : Adds sched 0 0 s s :=
  ⟨rfl, rfl, Nat.le_refl _, fun _ => rfl⟩

theorem trans (h : Adds sched ran lost s s') (h' : Adds sched ran' lost' s' s'') :
    Adds sched (ran + ran') (lost + lost') s s'' where
  completions := by rw [h'.completions, h.completions, Nat.add_assoc]
  losses := by rw [h'.losses, h.losses, Nat.add_assoc]
  handovers := Nat.le_trans h.handovers h'.handovers
  outside hout := by
    have hfirst := h.outside hout
    have hlater := h'.outside hout
    omega

end Adds

/-- An entry that tells of no body is no completion. -/
theorem completions_record {entry : Happening} (hentry : entry.run? = none) (workers : Thread)
    (s : Simulation) : (s.record entry).completions workers = s.completions workers := by
  have hnone : [entry].filterMap Happening.run? = [] := by
    rw [List.filterMap_cons_none hentry, List.filterMap_nil]
  show ((s.transcript ++ [entry]).filterMap Happening.run?).countP _ = s.completions workers
  rw [List.filterMap_append, hnone, List.append_nil, completions]

theorem completions_of_ran {thread : Thread} {runs : List BodyRun} (h : Ran thread runs s s')
    (workers : Thread) :
    s'.completions workers =
      s.completions workers + runs.countP (BodyRun.isCompletion workers) := by
  obtain ⟨entries, happend, hruns, -⟩ := h.transcript
  rw [completions, happend, List.filterMap_append, List.countP_append, hruns]
  rfl

/-- Bodies that are no completions add nothing. -/
theorem adds_of_ran {thread : Thread} {runs : List BodyRun} (h : Ran thread runs s s')
    (hruns : ∀ run ∈ runs, run.isCompletion sched.workerThread = false) :
    Adds sched 0 0 s s' := by
  have hnone : runs.countP (BodyRun.isCompletion sched.workerThread) = 0 := by
    rw [List.countP_eq_zero]
    intro run hrun
    rw [hruns run hrun]
    exact Bool.false_ne_true
  refine ⟨?_, ?_, ?_, ?_⟩
  · rw [completions_of_ran h, hnone]
  · rw [h.handovers, Nat.add_zero]
  · exact Nat.le_of_eq h.handovers.symm
  · exact fun _ => h.handovers

/-- The body of a keyword that runs elsewhere than on a worker is a completion. -/
theorem completions_runKeyword {thread workers : Thread} (hthread : thread ≠ workers)
    (c : KeywordCall Ability) (context : Context) (s : Simulation) :
    (s.runKeyword thread c context).completions workers = s.completions workers + 1 := by
  have hcounts : BodyRun.isCompletion workers (c.run thread context) = true := by
    simpa [BodyRun.isCompletion, KeywordCall.run] using hthread
  rw [completions_of_ran (ran_runKeyword thread c context s), List.countP_singleton, if_pos hcounts]

/-- What runs at a pause is asynchronous work. -/
theorem adds_runPending (s : Simulation) (i : Nat) : Adds sched 0 0 s (s.runPending sched i) := by
  cases hi : s.pending[i]? with
  | none =>
    simp only [runPending, hi]
    exact .refl sched s
  | some task =>
    simp only [runPending, hi]
    cases task with
    | call c context =>
      have hran := ran_runKeyword sched.workerThread c context
        { s with pending := s.pending.eraseIdx i }
      have hworker : ∀ run ∈ [c.run sched.workerThread context],
          run.isCompletion sched.workerThread = false := by
        intro run hrun
        obtain rfl := List.mem_singleton.1 hrun
        simp [BodyRun.isCompletion, KeywordCall.run]
      obtain ⟨hcompletions, hlosses, hhandovers, houtside⟩ := adds_of_ran hran hworker
      exact ⟨hcompletions, hlosses, hhandovers, houtside⟩
    | mark isAsync tag =>
      exact ⟨completions_record rfl _ _, rfl, Nat.le_refl _, fun _ => rfl⟩

theorem adds_pause (s : Simulation) : Adds sched 0 0 s (s.pause sched) := by
  obtain ⟨hcompletions, hlosses, hhandovers, houtside⟩ :=
    pause_of_picks (Adds.refl sched) Adds.trans adds_runPending s
  exact ⟨hcompletions, hlosses, hhandovers, houtside⟩

theorem completions_ask (workers : Thread) (s : Simulation) :
    (s.ask sched).2.completions workers = s.completions workers :=
  completions_record rfl workers { s with questions := s.questions + 1 }

variable (hapart : sched.KeepsWorkersApart)
include hapart

/-- The call of a keyword that is handed over is run or lost. -/
theorem adds_handOver (c : KeywordCall Ability) (context : Context) (s : Simulation) :
    ∃ ran lost, ran + lost = 1 ∧ Adds sched ran lost s (s.handOver sched (.call c context)) := by
  have hstart : ({ s with handovers := s.handovers + 1 }.record .handedOver).completions
      sched.workerThread = s.completions sched.workerThread :=
    completions_record rfl _ { s with handovers := s.handovers + 1 }
  have hlosses := sched.losses_succ s.handovers
  by_cases haccepts : sched.accepts s.handovers = true
  · refine ⟨1, 0, rfl, ?_⟩
    rw [handOver, if_pos haccepts]
    rw [if_pos haccepts] at hlosses
    have hran := ran_runKeyword sched.primaryThread c context
      ({ s with handovers := s.handovers + 1 }.record .handedOver)
    have hhandovers : (Simulation.runTask sched.primaryThread
        ({ s with handovers := s.handovers + 1 }.record .handedOver)
        (.call c context)).handovers = s.handovers + 1 := hran.handovers
    refine ⟨?_, by rw [hhandovers, hlosses], by omega, fun _ => hhandovers⟩
    rw [← hstart]
    exact completions_runKeyword hapart.primary c context _
  · refine ⟨0, 1, rfl, ?_⟩
    rw [handOver, if_neg haccepts]
    rw [if_neg haccepts] at hlosses
    -- Whether the caller is told of the loss or not, no body ran.
    cases sched.lossReason? with
    | none => exact ⟨hstart, hlosses, Nat.le_succ _, fun _ => rfl⟩
    | some reason =>
      refine ⟨?_, hlosses, Nat.le_succ _, fun _ => rfl⟩
      rw [Nat.add_zero, ← hstart]
      exact completions_record rfl _ _

/-- Each synchronous keyword is run or lost, and an asynchronous one is neither. -/
theorem adds_afterKeyword (c : KeywordCall Ability) (context : Context) (s : Simulation) :
    ∃ ran lost, ran + lost = (Ability.synchronous [c]).length ∧
      Adds sched ran lost s (Engine.afterKeyword sched context s c) := by
  by_cases hasync : c.keyword.isAsync = true
  · refine ⟨0, 0, by simp [Ability.synchronous, hasync], ?_⟩
    rw [Engine.afterKeyword, if_pos hasync]
    exact ⟨completions_record rfl _ { s with pending := s.pending ++ [.call c context] }, rfl,
      Nat.le_refl _, fun _ => rfl⟩
  · have hone : (Ability.synchronous [c]).length = 1 := by simp [Ability.synchronous, hasync]
    rw [Engine.afterKeyword, if_neg hasync, hone]
    split
    case isTrue honPrimary =>
      have hran := ran_runKeyword sched.callerThread c context (s.ask sched).2
      have hhandovers : ((s.ask sched).2.runKeyword sched.callerThread c context).handovers =
          s.handovers := hran.handovers
      refine ⟨1, 0, rfl, ?_, by rw [hhandovers, Nat.add_zero], Nat.le_of_eq hhandovers.symm, ?_⟩
      · rw [completions_runKeyword (hapart.caller _ honPrimary), completions_ask]
      · intro hout
        rw [hout] at honPrimary
        cases honPrimary
    case isFalse =>
      obtain ⟨ran, lost, hsum, hadds⟩ := adds_handOver hapart c context (s.ask sched).2
      refine ⟨ran, lost, hsum, ?_, hadds.losses, hadds.handovers, hadds.outside⟩
      rw [hadds.completions, completions_ask]

/-- Of the synchronous keywords of a dispatch, each is run or lost. -/
theorem adds_dispatchAll (calls : List (KeywordCall Ability)) (done : Execution) (s : Simulation) :
    ∃ ran lost, ran + lost = (Ability.synchronous calls).length ∧
      Adds sched ran lost s (Engine.dispatchAll sched context calls done s).2 := by
  rw [Engine.dispatchAll_eq]
  induction calls generalizing s with
  | nil => exact ⟨0, 0, rfl, .refl sched s⟩
  | cons c calls ih =>
    obtain ⟨ran, lost, hsum, hkeyword⟩ := adds_afterKeyword hapart c context s
    obtain ⟨ran', lost', hsum', hlater⟩ := ih ((Engine.afterKeyword sched context s c).pause sched)
    have hlength : (Ability.synchronous (c :: calls)).length =
        (Ability.synchronous [c]).length + (Ability.synchronous calls).length := by
      rw [Engine.synchronous_cons c calls, List.length_append]
    -- The pause between them runs asynchronous work alone, so it adds nothing.
    refine ⟨ran + ran', lost + lost', by omega, ?_⟩
    exact (hkeyword.trans (adds_pause _)).trans hlater

/-- An execution that is not refused runs or loses each of its synchronous keywords, and counts all
of them as completed. -/
theorem adds_tryExecute (strict : Bool) {a : Ability} {done : Execution}
    (h : Engine.tryExecute ⟨strict, sched⟩ a context s = (.ok done, s')) :
    ∃ ran lost, ran + lost = done.completed ∧
      done.completed = (Ability.synchronous a.keywords).length ∧ Adds sched ran lost s s' := by
  cases (Engine.tryExecute_eq_iff _ _ _ _ _ _).1 h with
  | @executed agrees supplied supported s₁ done s₂ hold dispatched =>
    obtain ⟨ran, lost, hsum, hadds⟩ : ∃ ran lost,
        ran + lost = (Ability.synchronous a.keywords).length ∧
          Adds sched ran lost s₁
            (Engine.dispatchAll sched context a.keywords ⟨a.name, 0, 0⟩ s₁).2 :=
      adds_dispatchAll hapart a.keywords ⟨a.name, 0, 0⟩ s₁
    have hdone : done.completed = (Ability.synchronous a.keywords).length := by
      have hreport := congrArg (fun p => p.1.completed) dispatched
      rw [Engine.dispatchAll_eq] at hreport
      exact hreport.symm.trans (Nat.zero_add _)
    rw [dispatched] at hadds
    have htests : Adds sched 0 0 s s₁ := by
      refine adds_of_ran hold.ran ?_
      intro run hrun
      obtain ⟨call, -, rfl⟩ := List.mem_map.1 hrun
      rfl
    refine ⟨ran, lost, hsum.trans hdone.symm, hdone, ?_⟩
    obtain ⟨hcompletions, hlosses, hhandovers, houtside⟩ := htests.trans hadds
    rw [Nat.zero_add] at hcompletions hlosses
    refine ⟨?_, hlosses, hhandovers, ?_⟩
    · rw [← hcompletions]
      exact completions_record rfl _ s₂
    · intro hout
      rw [← Nat.zero_add ran, ← Nat.zero_add lost]
      exact houtside hout

end Simulation

namespace Host

variable {ε : Type}

/-- The work that a host at rest accepts is that for which a caller can wait with success. -/
theorem runAndWait_eq_ok_iff {h : Host ε} (hrest : h.queue = []) (entries : List ε) (n : Nat) :
    (h.runAndWait ⟨entries, false⟩).1 = .ok () ↔ h.schedulerOutside.accepts n = true := by
  obtain ⟨isOpen, queue, log⟩ := h
  obtain rfl : queue = [] := hrest
  cases isOpen with
  | true => exact ⟨fun _ => rfl, fun _ => rfl⟩
  | false =>
    constructor
    · intro hok
      cases hok
    · intro haccepts
      cases haccepts

theorem keepsWorkersApart_outside (h : Host ε) : h.schedulerOutside.KeepsWorkersApart where
  primary := Thread.noConfusion
  caller _ honPrimary := Bool.noConfusion honPrimary

theorem keepsWorkersApart_inside {h : Host ε} {sched : Scheduler}
    (hsched : h.schedulerInside = .ok sched) : sched.KeepsWorkersApart := by
  rw [schedulerInside] at hsched
  split at hsched
  · cases hsched
    exact ⟨Thread.noConfusion, fun _ _ => Thread.noConfusion⟩
  · cases hsched

/-- Outside the primary thread a report tells the truth while the host is open. Of a host that is
closed it says the same, though no synchronous keyword runs there. -/
theorem completions_outside (h : Host ε) {strict : Bool} {a : Ability} {context : Context}
    {s s' : Simulation} {done : Execution}
    (hrun : Engine.tryExecute ⟨strict, h.schedulerOutside⟩ a context s = (.ok done, s')) :
    s'.completions .worker = s.completions .worker + if h.isOpen then done.completed else 0 := by
  obtain ⟨ran, lost, hsum, -, hadds⟩ :=
    Simulation.adds_tryExecute h.keepsWorkersApart_outside strict hrun
  have hcompletions : s'.completions .worker = s.completions .worker + ran := hadds.completions
  have hhandovers := hadds.outside fun _ => rfl
  have hlosses := hadds.losses
  rw [hcompletions]
  cases hopen : h.isOpen with
  | true =>
    have hnone := (h.schedulerOutside.losses_eq_iff hadds.handovers).2 fun _ _ _ => hopen
    rw [if_pos rfl]
    omega
  | false =>
    have hall : ∀ n, h.schedulerOutside.losses n = n := by
      intro n
      induction n with
      | zero => rfl
      | succ n ih =>
        have hlost : h.schedulerOutside.accepts n = false := hopen
        rw [Scheduler.losses_succ, ih, hlost]
        rfl
    rw [hall, hall] at hlosses
    rw [if_neg Bool.false_ne_true]
    omega

/-- On the primary thread a report tells the truth. -/
theorem completions_inside {h : Host ε} {sched : Scheduler} (hsched : h.schedulerInside = .ok sched)
    {strict : Bool} {a : Ability} {context : Context} {s s' : Simulation} {done : Execution}
    (hrun : Engine.tryExecute ⟨strict, sched⟩ a context s = (.ok done, s')) :
    s'.completions .worker = s.completions .worker + done.completed := by
  have hworker : sched.workerThread = .worker ∧ ∀ n, sched.accepts n = true := by
    rw [schedulerInside] at hsched
    split at hsched
    · cases hsched
      exact ⟨rfl, fun _ => rfl⟩
    · cases hsched
  obtain ⟨ran, lost, hsum, -, hadds⟩ :=
    Simulation.adds_tryExecute (keepsWorkersApart_inside hsched) strict hrun
  have hcompletions := hadds.completions
  have hlosses := hadds.losses
  have hnone := (sched.losses_eq_iff hadds.handovers).2 fun n _ _ => hworker.2 n
  rw [hworker.1] at hcompletions
  rw [hcompletions]
  omega

end Host

namespace Engine

/-- Wherever a stop of the primary thread falls, the report of an execution counts every synchronous
keyword as completed: those that ran, and with them those whose handover came to nothing. So it is
the number of those that ran just if no handover of the execution came to nothing. -/
theorem completed_eq_ran_add_lost (e : Engine) (hapart : e.scheduler.KeepsWorkersApart)
    (a : Ability) (context : Context) (s s' : Simulation) (done : Execution)
    (h : e.tryExecute a context s = (.ok done, s')) :
    ∃ ran lost,
      s'.completions e.scheduler.workerThread = s.completions e.scheduler.workerThread + ran ∧
      e.scheduler.losses s'.handovers = e.scheduler.losses s.handovers + lost ∧
      done.completed = ran + lost ∧
      done.completed = (Ability.synchronous a.keywords).length ∧
      (done.completed = ran ↔
        ∀ n, s.handovers ≤ n → n < s'.handovers → e.scheduler.accepts n = true) := by
  obtain ⟨ran, lost, hsum, hcount, hadds⟩ := Simulation.adds_tryExecute hapart e.strict h
  refine ⟨ran, lost, hadds.completions, hadds.losses, hsum.symm, hcount, ?_⟩
  rw [← e.scheduler.losses_eq_iff hadds.handovers, hadds.losses]
  omega

def thunder : Ability where
  name := "thunder"
  trigger := .unbound
  keywords := [⟨Builtin.lightning, ⟨[.targeter .player]⟩⟩,
    ⟨Builtin.message, ⟨[.targeter .player, .string "Boom"]⟩⟩,
    ⟨Builtin.lightning, ⟨[.targeter .player]⟩⟩]
  conditions := []
  timer := none

/-- A host that stops between the two synchronous keywords: the report counts both of them. -/
theorem completed_eq_ran_add_lost_thunder :
    let sched : Scheduler := { (Host.new : Host Unit).schedulerOutside with accepts := (· == 0) }
    let s : Simulation := .new (.ofList [] (.new ""))
    let attempt := tryExecute ⟨false, sched⟩ thunder ⟨"thunder", .unbound, 0, .base⟩ s
    attempt.1 = .ok ⟨"thunder", 2, 1⟩ ∧ ∃ ran lost,
      attempt.2.completions .worker = s.completions .worker + ran ∧
      sched.losses attempt.2.handovers = sched.losses s.handovers + lost ∧ 2 = ran + lost ∧
      ran = 1 := by
  intro sched s attempt
  have hapart : sched.KeepsWorkersApart :=
    ⟨Thread.noConfusion, fun _ honPrimary => Bool.noConfusion honPrimary⟩
  have hreport : attempt.1 = .ok ⟨"thunder", 2, 1⟩ := rfl
  obtain ⟨ran, lost, hran, hlost, hsum, -, -⟩ := completed_eq_ran_add_lost ⟨false, sched⟩ hapart
    thunder ⟨"thunder", .unbound, 0, .base⟩ s attempt.2 ⟨"thunder", 2, 1⟩
    (Prod.ext hreport rfl)
  have hone : attempt.2.completions .worker = 1 := by decide +kernel
  have hstart : s.completions .worker = 0 := by decide
  refine ⟨hreport, ran, lost, hran, hlost, hsum, ?_⟩
  have hran' : attempt.2.completions .worker = s.completions .worker + ran := hran
  omega

/-- A report does not tell how many keywords ran once the host has stopped. -/
theorem completed_ne_ran_of_closed :
    ¬ ∀ (h : Host Unit) (a : Ability) (context : Context) (s s' : Simulation) (done : Execution),
      tryExecute ⟨false, h.schedulerOutside⟩ a context s = (.ok done, s') →
        s'.completions .worker = s.completions .worker + done.completed := by
  intro hclaim
  have htwo := hclaim ⟨false, [], []⟩ thunder ⟨"thunder", .unbound, 0, .base⟩
    (.new (.ofList [] (.new ""))) _ ⟨"thunder", 2, 1⟩ rfl
  have hnone : (tryExecute ⟨false, (⟨false, [], []⟩ : Host Unit).schedulerOutside⟩ thunder
      ⟨"thunder", .unbound, 0, .base⟩ (.new (.ofList [] (.new "")))).2.completions .worker = 0 := by
    decide +kernel
  exact absurd (hnone.symm.trans htwo) (by decide)

end Engine

end AbilityScript
