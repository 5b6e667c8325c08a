import AbilityScript.Proofs.Completion
import AbilityScript.Proofs.ExecutionCourse

namespace AbilityScript

def Happening.isCall : Happening → Bool
  | asked _ | handedOver | spawned => true
  | _ => false

theorem Happening.isCall_of_leftOn {thread : Thread} {entry : Happening}
    (h : entry.LeftOn thread) : entry.isCall = false := by
  cases entry with
  | ran | noticed | marked => rfl
  | asked | handedOver | spawned => cases h

def KeywordCall.schedulerCalls (answer : Bool) (c : KeywordCall Ability) : List Happening :=
  if c.keyword.isAsync then [.spawned]
  else if answer then [.asked true]
  else [.asked false, .handedOver]

theorem KeywordCall.isCall_of_mem_schedulerCalls {answer : Bool} {c : KeywordCall Ability}
    {entry : Happening} (h : entry ∈ c.schedulerCalls answer) :
    entry.isCall = true ∧ entry.run? = none := by
  unfold schedulerCalls at h
  split at h
  · obtain rfl := List.mem_singleton.1 h
    exact ⟨rfl, rfl⟩
  · split at h
    · obtain rfl := List.mem_singleton.1 h
      exact ⟨rfl, rfl⟩
    · rcases List.mem_cons.1 h with rfl | hlast
      · exact ⟨rfl, rfl⟩
      · obtain rfl := List.mem_singleton.1 hlast
        exact ⟨rfl, rfl⟩

def Ability.schedulerCalls (answers : Nat → Bool) :
    Nat → List (KeywordCall Ability) → List Happening
  | _, [] => []
  | n, c :: calls =>
    c.schedulerCalls (answers n) ++ schedulerCalls answers (n + (synchronous [c]).length) calls

structure TurnDeeds where
  own : List Deed
  waited : List Deed

def TurnDeeds.all (turn : TurnDeeds) : List Deed :=
  turn.own ++ turn.waited

namespace Simulation

structure Uncalled (s s' : Simulation) : Prop where
  questions : s'.questions = s.questions
  transcript : ∃ entries, s'.transcript = s.transcript ++ entries ∧
    ∀ entry ∈ entries, entry.isCall = false

namespace Uncalled

variable {s s' s'' : Simulation}

theorem refl (s : Simulation) : Uncalled s s :=
  ⟨rfl, [], (List.append_nil _).symm, by simp⟩

theorem trans (h : Uncalled s s') (h' : Uncalled s' s'') : Uncalled s s'' := by
  obtain ⟨entries, happend, hnone⟩ := h.transcript
  obtain ⟨entries', happend', hnone'⟩ := h'.transcript
  refine ⟨h'.questions.trans h.questions, entries ++ entries', ?_, ?_⟩
  · rw [happend', happend, List.append_assoc]
  · intro entry hentry
    exact (List.mem_append.1 hentry).elim (hnone entry) (hnone' entry)

end Uncalled

/-- No body calls the scheduler. -/
theorem Ran.uncalled {thread : Thread} {runs : List BodyRun} {s s' : Simulation}
    (h : Ran thread runs s s') : Uncalled s s' := by
  obtain ⟨entries, happend, -, hleft⟩ := h.transcript
  exact ⟨h.questions, entries, happend, fun entry hentry =>
    Happening.isCall_of_leftOn (hleft entry hentry)⟩

theorem uncalled_runTask (thread : Thread) (task : Task) (s : Simulation) :
    Uncalled s (s.runTask thread task) := by
  cases task with
  | call c context => exact (ran_runKeyword thread c context s).uncalled
  | mark isAsync tag => exact ⟨rfl, [.marked isAsync tag thread], rfl, by simp [Happening.isCall]⟩

theorem uncalled_runPending (sched : Scheduler) (s : Simulation) (i : Nat) :
    Uncalled s (s.runPending sched i) := by
  rw [runPending]
  split
  case h_1 task _ =>
    obtain ⟨hquestions, htranscript⟩ :=
      uncalled_runTask sched.workerThread task { s with pending := s.pending.eraseIdx i }
    exact ⟨hquestions, htranscript⟩
  case h_2 => exact .refl s

theorem uncalled_pause (sched : Scheduler) (s : Simulation) : Uncalled s (s.pause sched) := by
  obtain ⟨hquestions, htranscript⟩ :=
    pause_of_picks Uncalled.refl Uncalled.trans (uncalled_runPending sched) s
  exact ⟨hquestions, htranscript⟩

end Simulation

namespace Engine

open Simulation

structure KeywordTurn (sched : Scheduler) (context : Context) (c : KeywordCall Ability)
    (turn : TurnDeeds) (s s' : Simulation) : Prop where
  course : Course turn.all s s'
  called : ∃ entries, s'.transcript =
      s.transcript ++ (c.schedulerCalls (sched.onPrimary s.questions) ++ entries) ∧
    ∀ entry ∈ entries, entry.isCall = false
  questions : s'.questions = s.questions + (Ability.synchronous [c]).length
  own : turn.own = (Ability.synchronous [c]).map fun c => ⟨.ofCall context c,
    if sched.onPrimary s.questions then sched.callerThread else sched.primaryThread, s.scene⟩
  /-- An asynchronous one joins what waits; of that each piece is done once or waits still. -/
  accounted : (turn.waited.map Deed.act ++ s'.pending.map Act.task).Perm
    (s.pending.map Act.task ++ (Ability.asynchronous [c]).map (.ofCall context))
  prompt : (∀ n, sched.picks n = [0]) → s.pending = [] →
    turn.all.map Deed.act = [.ofCall context c] ∧ s'.pending = []

inductive KeywordTurns (sched : Scheduler) (context : Context) :
    List (KeywordCall Ability) → List TurnDeeds → Simulation → Simulation → Prop
  | nil (s : Simulation) : KeywordTurns sched context [] [] s s
  | cons {c calls turn turns s s' s''} (now : KeywordTurn sched context c turn s s')
      (later : KeywordTurns sched context calls turns s' s'') :
      KeywordTurns sched context (c :: calls) (turn :: turns) s s''

variable {sched : Scheduler} {context : Context} {s s' : Simulation}

section Turn

variable {c : KeywordCall Ability}

theorem keywordTurn_of_async (hasync : c.keyword.isAsync = true) (s : Simulation) :
    ∃ turn, KeywordTurn sched context c turn s ((afterKeyword sched context s c).pause sched) := by
  have hspawned : afterKeyword sched context s c = s.spawn (.call c context) := by
    rw [afterKeyword, if_pos hasync]
  have hcalls (answer : Bool) : c.schedulerCalls answer = [.spawned] := by
    rw [KeywordCall.schedulerCalls, if_pos hasync]
  have hsynchronous : Ability.synchronous [c] = [] := by simp [Ability.synchronous, hasync]
  have hasynchronous : Ability.asynchronous [c] = [c] := by simp [Ability.asynchronous, hasync]
  obtain ⟨waited, hdone⟩ := drained_pause sched (s.spawn (.call c context))
  obtain ⟨hquestions, entries, hentries, hnone⟩ :=
    uncalled_pause sched (s.spawn (.call c context))
  have hspawn : Course [] s (s.spawn (.call c context)) :=
    (Course.of_record .spawned rfl { s with pending := s.pending ++ [.call c context] }).of_start
      rfl rfl rfl
  have hpending : (s.spawn (.call c context)).pending.map Act.task =
      s.pending.map Act.task ++ [Act.ofCall context c] := List.map_append
  rw [hspawned]
  refine ⟨⟨[], waited⟩, hspawn.append hdone.course, ⟨entries, ?_, hnone⟩, ?_, ?_, ?_, ?_⟩
  · rw [hcalls, hentries]
    exact List.append_assoc _ _ _
  · rw [hsynchronous]
    exact hquestions
  · rw [hsynchronous]
    rfl
  · rw [hasynchronous]
    exact hpending ▸ hdone.accounted
  -- Nothing waited before, so what is picked is the keyword itself.
  · intro hpicks hempty
    have hpaused : ((s.spawn (.call c context)).pause sched).pending = [] := by
      apply Command.pending_pause_of_prompt hpicks
      simp [spawn, record, hempty]
    have hperm := hdone.accounted
    rw [hpending, hpaused, hempty, List.map_nil, List.append_nil] at hperm
    exact ⟨List.perm_singleton.1 hperm, hpaused⟩

/-- A synchronous keyword is called on one of two threads, after the calls of the scheduler. -/
theorem exists_ready_of_sync (haccepts : ∀ n, sched.accepts n = true)
    (hsync : c.keyword.isAsync = false) (s : Simulation) :
    ∃ ready : Simulation, afterKeyword sched context s c =
        ready.runKeyword (if sched.onPrimary s.questions then sched.callerThread
          else sched.primaryThread) c context ∧
      ready.scene = s.scene ∧ ready.cache = s.cache ∧ ready.pending = s.pending ∧
      ready.questions = s.questions + 1 ∧
      ready.transcript = s.transcript ++ c.schedulerCalls (sched.onPrimary s.questions) := by
  have hnot : ¬ c.keyword.isAsync = true := by simp [hsync]
  rw [afterKeyword, if_neg hnot, KeywordCall.schedulerCalls, if_neg hnot]
  cases hanswer : sched.onPrimary s.questions with
  | true => exact ⟨(s.ask sched).2, rfl, rfl, rfl, rfl, rfl, by simp [ask, record, hanswer]⟩
  | false =>
    refine ⟨{ (s.ask sched).2 with handovers := s.handovers + 1 }.record .handedOver, ?_, rfl, rfl,
      rfl, rfl, by simp [ask, record, hanswer]⟩
    have haccepted : sched.accepts (s.ask sched).2.handovers = true := haccepts _
    rw [if_neg Bool.false_ne_true, if_neg Bool.false_ne_true, handOver, if_pos haccepted]
    rfl

theorem keywordTurn_of_sync (haccepts : ∀ n, sched.accepts n = true)
    (hsync : c.keyword.isAsync = false) (s : Simulation) :
    ∃ turn, KeywordTurn sched context c turn s ((afterKeyword sched context s c).pause sched) := by
  obtain ⟨ready, hafter, hscene, hcache, hpending, hquestions, htranscript⟩ :=
    exists_ready_of_sync haccepts hsync s
  have hsynchronous : Ability.synchronous [c] = [c] := by simp [Ability.synchronous, hsync]
  have hasynchronous : Ability.asynchronous [c] = [] := by simp [Ability.asynchronous, hsync]
  have hready : Course [] s ready := by
    refine ⟨hscene ▸ .nil _, hcache, _, htranscript, ?_⟩
    exact List.filterMap_eq_nil_iff.2 fun entry hentry =>
      (KeywordCall.isCall_of_mem_schedulerCalls hentry).2
  generalize hthread : (if sched.onPrimary s.questions then sched.callerThread
    else sched.primaryThread) = thread at hafter
  have hran : Course [⟨.ofCall context c, thread, s.scene⟩] ready
      (ready.runKeyword thread c context) := hscene ▸ course_runTask thread (.call c context) ready
  have hquiet := (ran_runKeyword thread c context ready).uncalled
  obtain ⟨waited, hdone⟩ := drained_pause sched (ready.runKeyword thread c context)
  obtain ⟨hasked, entries, hentries, hnone⟩ := hquiet.trans (uncalled_pause sched _)
  have hbefore : (ready.runKeyword thread c context).pending = s.pending :=
    (ran_runKeyword thread c context ready).pending.trans hpending
  rw [hafter]
  refine ⟨⟨[⟨.ofCall context c, thread, s.scene⟩], waited⟩, ?_, ⟨entries, ?_, hnone⟩, ?_, ?_, ?_,
    ?_⟩
  · exact (hready.append hran).append hdone.course
  · rw [hentries, htranscript, List.append_assoc]
  · rw [hasked, hquestions, hsynchronous]
    rfl
  · rw [hsynchronous, List.map_singleton, hthread]
  · rw [hasynchronous, List.map_nil, List.append_nil]
    exact hbefore ▸ hdone.accounted
  · intro _ hempty
    obtain ⟨hdeeds, hrest⟩ := hdone.nothing (hbefore.trans hempty)
    exact ⟨congrArg (Act.ofCall context c :: ·) hdeeds, hrest⟩

theorem exists_keywordTurn (haccepts : ∀ n, sched.accepts n = true) (c : KeywordCall Ability)
    (s : Simulation) :
    ∃ turn, KeywordTurn sched context c turn s ((afterKeyword sched context s c).pause sched) := by
  cases hasync : c.keyword.isAsync with
  | true => exact keywordTurn_of_async hasync s
  | false => exact keywordTurn_of_sync haccepts hasync s

end Turn

/-- A dispatch consists of the turns of its keywords. -/
theorem exists_keywordTurns (haccepts : ∀ n, sched.accepts n = true) (context : Context)
    (calls : List (KeywordCall Ability)) (done : Execution) (s : Simulation) :
    ∃ turns, KeywordTurns sched context calls turns s
      (dispatchAll sched context calls done s).2 := by
  rw [dispatchAll_eq]
  induction calls generalizing s with
  | nil => exact ⟨[], .nil s⟩
  | cons c calls ih =>
    obtain ⟨turn, hnow⟩ := exists_keywordTurn haccepts c s
    obtain ⟨turns, hlater⟩ := ih ((afterKeyword sched context s c).pause sched)
    exact ⟨turn :: turns, .cons hnow hlater⟩

namespace KeywordTurns

variable {calls : List (KeywordCall Ability)} {turns : List TurnDeeds}

theorem course (h : KeywordTurns sched context calls turns s s') :
    Course (turns.flatMap TurnDeeds.all) s s' := by
  induction h with
  | nil s => exact .refl s
  | cons now _ ih => exact now.course.append ih

/-- For each keyword the scheduler is called in its turn, and for nothing else. -/
theorem called (h : KeywordTurns sched context calls turns s s') :
    ∃ entries, s'.transcript = s.transcript ++ entries ∧
      entries.filter Happening.isCall =
        Ability.schedulerCalls sched.onPrimary s.questions calls := by
  induction h with
  | nil s => exact ⟨[], (List.append_nil _).symm, rfl⟩
  | @cons c calls turn turns s s' s'' now _ ih =>
    obtain ⟨entries, hentries, hnone⟩ := now.called
    obtain ⟨entries', hentries', hcalls⟩ := ih
    have hown : (c.schedulerCalls (sched.onPrimary s.questions)).filter Happening.isCall =
        c.schedulerCalls (sched.onPrimary s.questions) :=
      List.filter_eq_self.2 fun entry hentry =>
        (KeywordCall.isCall_of_mem_schedulerCalls hentry).1
    have hbodies : entries.filter Happening.isCall = [] := by
      refine List.filter_eq_nil_iff.2 fun entry hentry => ?_
      rw [hnone entry hentry]
      exact Bool.false_ne_true
    refine ⟨c.schedulerCalls (sched.onPrimary s.questions) ++ entries ++ entries', ?_, ?_⟩
    · rw [hentries', hentries, List.append_assoc]
    · rw [List.filter_append, List.filter_append, hown, hbodies, List.append_nil, hcalls,
        now.questions]
      rfl

/-- Each synchronous keyword is done once, and in order. -/
theorem own (h : KeywordTurns sched context calls turns s s') :
    (turns.flatMap TurnDeeds.own).map Deed.act =
      (Ability.synchronous calls).map (.ofCall context) := by
  induction h with
  | nil s => rfl
  | @cons c calls turn turns s s' s'' now _ ih =>
    have hown : turn.own.map Deed.act = (Ability.synchronous [c]).map (.ofCall context) := by
      rw [now.own, List.map_map]
      rfl
    rw [List.flatMap_cons, List.map_append, hown, ih, synchronous_cons c calls,
      List.map_append]

/-- Each asynchronous keyword is done once or waits still. -/
theorem accounted (h : KeywordTurns sched context calls turns s s') :
    ((turns.flatMap TurnDeeds.waited).map Deed.act ++ s'.pending.map Act.task).Perm
      (s.pending.map Act.task ++ (Ability.asynchronous calls).map (.ofCall context)) := by
  induction h with
  | nil s => exact .of_eq (List.append_nil _).symm
  | @cons c calls turn turns s s' s'' now _ ih =>
    -- What waits between the turns is done in a later one or waits on.
    have hlater : (turn.waited.map Deed.act ++
          ((turns.flatMap TurnDeeds.waited).map Deed.act ++ s''.pending.map Act.task)).Perm
        (turn.waited.map Deed.act ++ s'.pending.map Act.task ++
          (Ability.asynchronous calls).map (.ofCall context)) := by
      rw [List.append_assoc (turn.waited.map Deed.act)]
      exact ih.append_left _
    have hall := hlater.trans (now.accounted.append_right _)
    simpa only [List.flatMap_cons, asynchronous_cons c calls, List.map_append,
      List.append_assoc] using hall

/-- Where work runs as soon as it is handed over, the keywords are done in order. -/
theorem prompt (h : KeywordTurns sched context calls turns s s')
    (hpicks : ∀ n, sched.picks n = [0]) (hpending : s.pending = []) :
    (turns.flatMap TurnDeeds.all).map Deed.act = calls.map (.ofCall context) ∧
      s'.pending = [] := by
  induction h with
  | nil s => exact ⟨rfl, hpending⟩
  | cons now _ ih =>
    obtain ⟨hacts, hmiddle⟩ := now.prompt hpicks hpending
    obtain ⟨hlater, hend⟩ := ih hmiddle
    refine ⟨?_, hend⟩
    rw [List.flatMap_cons, List.map_append, hacts, hlater]
    rfl

end KeywordTurns

structure Served (sched : Scheduler) (context : Context) (calls : List (KeywordCall Ability))
    (turns : List TurnDeeds) (s s' : Simulation) : Prop where
  called : ∃ entries, s'.transcript = s.transcript ++ entries ∧
    entries.filter Happening.isCall = Ability.schedulerCalls sched.onPrimary s.questions calls ∧
    entries.filterMap Happening.run? = (turns.flatMap TurnDeeds.all).filterMap Deed.run?
  synchronous : (turns.flatMap TurnDeeds.own).map Deed.act =
    (Ability.synchronous calls).map (.ofCall context)
  asynchronous : ((turns.flatMap TurnDeeds.waited).map Deed.act ++ s'.pending.map Act.task).Perm
    (s.pending.map Act.task ++ (Ability.asynchronous calls).map (.ofCall context))
  /-- Whenever it is picked, a keyword that waits is done once, with its arguments and in the
  context of its execution. -/
  picked : ∀ (t : Simulation) (i : Nat) (c : KeywordCall Ability),
    t.pending[i]? = some (.call c context) →
      Course [⟨.ofCall context c, sched.workerThread, t.scene⟩] t (t.runPending sched i) ∧
        (t.runPending sched i).pending = t.pending.eraseIdx i
  /-- When all has been run that waits, each asynchronous keyword has been done once. -/
  flushed : ∀ t, t.pending = s'.pending → ∃ rest, Course rest t (t.flush sched) ∧
    ((turns.flatMap TurnDeeds.waited ++ rest).map Deed.act).Perm
      (s.pending.map Act.task ++ (Ability.asynchronous calls).map (.ofCall context))
  prompt : (∀ n, sched.picks n = [0]) → s.pending = [] →
    (turns.flatMap TurnDeeds.all).map Deed.act = calls.map (.ofCall context) ∧ s'.pending = []

theorem KeywordTurns.served {calls : List (KeywordCall Ability)} {turns : List TurnDeeds}
    (h : KeywordTurns sched context calls turns s s') : Served sched context calls turns s s' := by
  refine ⟨?_, h.own, h.accounted, fun t i c hwaits => course_runPending hwaits, ?_, h.prompt⟩
  · obtain ⟨entries, hentries, hcalls⟩ := h.called
    obtain ⟨entries', hentries', hruns⟩ := h.course.transcript
    obtain rfl : entries = entries' :=
      List.append_cancel_left (hentries.symm.trans hentries')
    exact ⟨entries, hentries, hcalls, hruns⟩
  · intro t hpending
    obtain ⟨rest, hcourse, hacts⟩ := course_flush sched t
    refine ⟨rest, hcourse, ?_⟩
    rw [List.map_append, hacts, hpending]
    exact h.accounted

inductive Attempts (e : Engine) (a : Ability) (s : Simulation) :
    Context → Except Refusal Execution × Simulation → Prop
  | tried {context : Context} (agrees : context.trigger = a.trigger) :
      Attempts e a s context (e.tryExecute a context s)
  | named {name : String} (player : EntityId) (stored : s.cache.set.get? name = some a) :
      Attempts e a s ⟨name, .unbound, player, .base⟩ (e.executeByName name player s)

theorem Attempts.eq_run {e : Engine} {a : Ability}
    {attempt : Except Refusal Execution × Simulation} (h : Attempts e a s context attempt) :
    attempt = e.run a context s := by
  cases h with
  | tried agrees => rw [tryExecute, if_pos agrees]
  | named player stored => rw [executeByName, stored]

/-- An ability whose gate is open has its keywords dispatched in turns, by every scheduler that does
what is handed over to it. The tests before do not call the scheduler. What is reported counts the
keywords of either kind, which are all of them. -/
theorem dispatches_in_turns (e : Engine) (a : Ability) (context : Context) (s s₁ : Simulation)
    (attempt : Except Refusal Execution × Simulation)
    (haccepts : ∀ n, e.scheduler.accepts n = true) (hopens : e.Opens a context s s₁)
    (hattempt : e.Attempts a s context attempt) :
    let completed := (Ability.synchronous a.keywords).length
    let dispatched := (Ability.asynchronous a.keywords).length
    ∃ tests turns s₂,
      Course tests s s₁ ∧ tests.map Deed.act = a.conditions.map (.test · context) ∧
      Uncalled s s₁ ∧
      KeywordTurns e.scheduler context a.keywords turns s₁ s₂ ∧
      Served e.scheduler context a.keywords turns s₁ s₂ ∧
      attempt = (.ok ⟨a.name, completed, dispatched⟩,
        s₂.note e.scheduler.callerThread (.executed a.name completed dispatched)) ∧
      completed + dispatched = a.keywords.length := by
  intro completed dispatched
  obtain ⟨tests, hcourse, htested⟩ := hopens.hold.course
  obtain ⟨turns, hturns⟩ :=
    exists_keywordTurns haccepts context a.keywords ⟨a.name, 0, 0⟩ s₁
  have hreport : (dispatchAll e.scheduler context a.keywords ⟨a.name, 0, 0⟩ s₁).1 =
      ⟨a.name, completed, dispatched⟩ := by
    rw [dispatchAll_eq]
    simp only [Execution.tally, Nat.zero_add, completed, dispatched]
  have hattempt' := hattempt.eq_run.trans hopens.run_eq
  have hcounts := completed_add_dispatched_tally a.name a.keywords
  simp only [Execution.tally, Nat.zero_add] at hcounts
  refine ⟨tests, turns, _, hcourse, htested, hopens.hold.ran.uncalled, hturns, hturns.served, ?_,
    hcounts⟩
  rw [hattempt']
  simp only [hreport]

/-- Two synchronous keywords with an asynchronous one between them, and a scheduler that answers the
first of their questions with yes and the second with no. -/
theorem dispatches_in_turns_thunder :
    let sched : Scheduler := { Scheduler.inline with onPrimary := (· == 0), picks := fun _ => [] }
    let e : Engine := ⟨false, sched⟩
    let context : Context := ⟨"thunder", .unbound, 0, .base⟩
    let s := Simulation.new (.ofList [] (.new ""))
    let attempt := e.tryExecute thunder context s
    (∀ n, sched.accepts n = true) ∧ e.Opens thunder context s s ∧
      e.Attempts thunder s context attempt ∧ attempt.1 = .ok ⟨"thunder", 2, 1⟩ ∧
      Ability.schedulerCalls sched.onPrimary s.questions thunder.keywords =
        [.asked true, .spawned, .asked false, .handedOver] ∧
      ∃ turns s₂, Served sched context thunder.keywords turns s s₂ := by
  intro sched e context s attempt
  obtain ⟨hsupplied, hsupported⟩ :=
    (incompatibility?_eq_none_iff false thunder context.capabilities).1 (by decide)
  have hopens : e.Opens thunder context s s := ⟨hsupplied, hsupported, .nil s⟩
  have hattempt : e.Attempts thunder s context attempt := .tried rfl
  obtain ⟨-, turns, s₂, -, -, -, -, hserved, hresult, -⟩ :=
    dispatches_in_turns e thunder context s s attempt (fun _ => rfl) hopens hattempt
  exact ⟨fun _ => rfl, hopens, hattempt, congrArg Prod.fst hresult, rfl, turns, s₂, hserved⟩

end Engine

end AbilityScript
