import AbilityScript.Proofs.Host.Queue

namespace AbilityScript.Protocol

open State

/-- What a step leaves as it is: what is recorded stays recorded, and a call that has not sent its
task by then never will. -/
structure Extends (s s' : State) : Prop where
  log : s.host.log <+: s'.host.log
  returned : s.returned <+: s'.returned
  dropped : s.dropped ⊆ s'.dropped
  calls : s.calls ≤ s'.calls
  unsent : ∀ n, n < s.calls → Ticket.call n ∉ s.enqueued → Ticket.call n ∉ s'.enqueued

theorem Extends.refl (s : State) : Extends s s :=
  ⟨List.prefix_rfl, List.prefix_rfl, List.Subset.refl _, Nat.le_refl _, fun _ _ hn => hn⟩

theorem Extends.trans {s s' s'' : State} (h : Extends s s') (h' : Extends s' s'') :
    Extends s s'' where
  log := h.log.trans h'.log
  returned := h.returned.trans h'.returned
  dropped := List.Subset.trans h.dropped h'.dropped
  calls := Nat.le_trans h.calls h'.calls
  unsent n hn hunsent := h'.unsent n (Nat.lt_of_lt_of_le hn h.calls) (h.unsent n hn hunsent)

theorem unsent_append {s : State} {t : Ticket} {n : Nat} (hn : Ticket.call n ∉ s.enqueued)
    (ht : t ≠ .call n) : Ticket.call n ∉ (s.sent ++ [some t]).filterMap id := by
  rw [enqueued_append, List.mem_append, List.mem_singleton]
  rintro (hmem | rfl)
  · exact hn hmem
  · exact ht rfl

theorem Step.extends {s s' : State} (hq : Queued s) (h : Step s s') : Extends s s' := by
  have hsame := Extends.refl s
  cases h with
  | @call waits host sent =>
    obtain ⟨-, rfl⟩ := Host.send_eq_ok_iff.1 sent
    refine ⟨hsame.log, hsame.returned, hsame.dropped, Nat.le_succ _, fun n hn hunsent => ?_⟩
    refine unsent_append hunsent fun heq => ?_
    cases heq
    exact Nat.lt_irrefl _ hn
  | @tick ticker last host ticks sent =>
    obtain ⟨-, rfl⟩ := Host.send_eq_ok_iff.1 sent
    exact ⟨hsame.log, hsame.returned, hsame.dropped, hsame.calls,
      fun n _ hunsent => unsent_append hunsent Ticket.noConfusion⟩
  | shutdown sent =>
    obtain ⟨-, rfl⟩ := Host.send_eq_ok_iff.1 sent
    refine ⟨hsame.log, hsame.returned, hsame.dropped, hsame.calls, fun n _ hunsent => ?_⟩
    show Ticket.call n ∉ (s.sent ++ [none]).filterMap id
    rw [enqueued_stop]
    exact hunsent
  | begin idle loops took =>
    obtain ⟨-, queue, -, rfl⟩ := Host.take?_eq_some_iff.1 took
    exact ⟨hsame.log, hsame.returned, hsame.dropped, hsame.calls, hsame.unsent⟩
  | stop idle loops took =>
    obtain ⟨-, queue, -, rfl⟩ := Host.take?_eq_some_iff.1 took
    exact ⟨hsame.log, hsame.returned, hsame.dropped, hsame.calls, hsame.unsent⟩
  | finish inside queued =>
    exact ⟨List.prefix_append _ _, hsame.returned, hsame.dropped, hsame.calls, hsame.unsent⟩
  | comeBack inside =>
    exact ⟨List.prefix_append _ _, List.prefix_append _ _, hsame.dropped, hsame.calls,
      hsame.unsent⟩
  | refuse unsent =>
    exact ⟨hsame.log, List.prefix_append _ _, hsame.dropped, Nat.le_succ _, hsame.unsent⟩
  | hear waits done =>
    exact ⟨hsame.log, List.prefix_append _ _, hsame.dropped, hsame.calls, hsame.unsent⟩
  | miss waits lost =>
    exact ⟨hsame.log, List.prefix_append _ _, hsame.dropped, hsame.calls, hsame.unsent⟩
  | inline inside =>
    exact ⟨hsame.log, hsame.returned, hsame.dropped, Nat.le_succ _, hsame.unsent⟩
  | endTicker ticks unsent =>
    exact ⟨hsame.log, hsame.returned, hsame.dropped, hsame.calls, hsame.unsent⟩
  | leave stopped held =>
    -- While the queue was there, nothing had been dropped.
    obtain ⟨rest, -, hheld, -⟩ := hq.split
    refine ⟨hsame.log, hsame.returned, ?_, hsame.calls, hsame.unsent⟩
    rw [(hheld held).2]
    exact List.nil_subset _

/-- A call that returns in a step does so because its task is done, because the request was refused,
or because the task was dropped. -/
theorem Step.returned_cases {s s' : State} (h : Step s s') {t : Ticket}
    {result : Except HostError Unit} (ht : (t, result) ∈ s'.returned) :
    (t, result) ∈ s.returned ∨ (result = .ok () ∧ t ∈ s'.host.log) ∨
      (result = .error .unavailable ∧ t = .call s.calls ∧ s'.calls = s.calls + 1 ∧
        s'.enqueued = s.enqueued) ∨
      (result = .error .channel ∧ t ∈ s.waiting ∧ t ∈ s'.dropped) := by
  have hlast {u : Ticket} {r : Except HostError Unit}
      (hmem : (t, result) ∈ s.returned ++ [(u, r)]) :
      (t, result) ∈ s.returned ∨ (t = u ∧ result = r) := by
    rcases List.mem_append.1 hmem with hold | hnew
    · exact .inl hold
    · exact .inr (Prod.mk.inj (List.mem_singleton.1 hnew))
  cases h with
  | refuse unsent =>
    obtain ⟨-, rfl⟩ := Host.send_eq_error_iff.1 unsent
    rcases hlast ht with hold | ⟨rfl, rfl⟩
    · exact .inl hold
    · exact .inr (.inr (.inl ⟨rfl, rfl, rfl, rfl⟩))
  | hear waits done =>
    rcases hlast ht with hold | ⟨rfl, rfl⟩
    · exact .inl hold
    · exact .inr (.inl ⟨rfl, done⟩)
  | miss waits lost =>
    rcases hlast ht with hold | ⟨rfl, rfl⟩
    · exact .inl hold
    · exact .inr (.inr (.inr ⟨rfl, waits, lost⟩))
  | comeBack inside =>
    rcases hlast ht with hold | ⟨rfl, rfl⟩
    · exact .inl hold
    · exact .inr (.inl ⟨rfl, List.mem_append_right _ List.mem_cons_self⟩)
  | _ => exact .inl ht

/-- How the calls stand that returned: a task that was reported done came to its end, one that was
reported lost was never in the queue or went with it, and a call on the primary thread returns as
soon as its task is done. -/
structure Answered (s : State) : Prop where
  done : ∀ t, (t, .ok ()) ∈ s.returned → t ∈ s.host.log
  failed : ∀ t e, (t, .error e) ∈ s.returned → (e = .unavailable ∨ e = .channel) ∧
    (∃ n, t = .call n ∧ n < s.calls) ∧ (t ∉ s.enqueued ∨ t ∈ s.dropped)
  inline : ∀ n, Ticket.inline n ∈ s.host.log → (.inline n, .ok ()) ∈ s.returned
  waiting : ∀ t ∈ s.waiting, ∃ n, t = .call n ∧ n < s.calls

theorem answered_start : Answered start where
  done _ ht := absurd ht List.not_mem_nil
  failed _ _ ht := absurd ht List.not_mem_nil
  inline _ hn := absurd hn List.not_mem_nil
  waiting _ ht := absurd ht List.not_mem_nil

/-- A call on the primary thread returns in the step in which its task comes to its end. -/
theorem Step.inline_returned {s s' : State} (h : Step s s') (hs : Answered s) {n : Nat}
    (hn : Ticket.inline n ∈ s'.host.log) : (.inline n, .ok ()) ∈ s'.returned := by
  cases h with
  | call waits sent =>
    obtain ⟨-, rfl⟩ := Host.send_eq_ok_iff.1 sent
    exact hs.inline n hn
  | tick ticks sent =>
    obtain ⟨-, rfl⟩ := Host.send_eq_ok_iff.1 sent
    exact hs.inline n hn
  | shutdown sent =>
    obtain ⟨-, rfl⟩ := Host.send_eq_ok_iff.1 sent
    exact hs.inline n hn
  | begin idle loops took =>
    obtain ⟨-, queue, -, rfl⟩ := Host.take?_eq_some_iff.1 took
    exact hs.inline n hn
  | stop idle loops took =>
    obtain ⟨-, queue, -, rfl⟩ := Host.take?_eq_some_iff.1 took
    exact hs.inline n hn
  | finish inside queued =>
    rcases List.mem_append.1 hn with hold | hnew
    · exact hs.inline n hold
    · rw [← List.mem_singleton.1 hnew] at queued
      cases queued
  | comeBack inside =>
    rcases List.mem_append.1 hn with hold | hnew
    · exact List.mem_append_left _ (hs.inline n hold)
    · rw [List.mem_singleton.1 hnew]
      exact List.mem_append_right _ List.mem_cons_self
  | refuse unsent => exact List.mem_append_left _ (hs.inline n hn)
  | hear waits done => exact List.mem_append_left _ (hs.inline n hn)
  | miss waits lost => exact List.mem_append_left _ (hs.inline n hn)
  | _ => exact hs.inline n hn

/-- A thread that waits has made a call. -/
theorem Step.waiting_cases {s s' : State} (h : Step s s') {t : Ticket} (ht : t ∈ s'.waiting) :
    t ∈ s.waiting ∨ (t = .call s.calls ∧ s'.calls = s.calls + 1) := by
  cases h with
  | call waits sent =>
    cases waits with
    | false => exact .inl ht
    | true =>
      rcases List.mem_append.1 ht with hold | hnew
      · exact .inl hold
      · exact .inr ⟨List.mem_singleton.1 hnew, rfl⟩
  | hear waits done => exact .inl (List.mem_of_mem_erase ht)
  | miss waits lost => exact .inl (List.mem_of_mem_erase ht)
  | _ => exact .inl ht

theorem Answered.step {s s' : State} (hq : Queued s) (hd : Distinct s) (hs : Answered s)
    (h : Step s s') : Answered s' := by
  have hextends := h.extends hq
  have hcall : ∀ t, (∃ n, t = Ticket.call n ∧ n < s.calls) →
      ∃ n, t = Ticket.call n ∧ n < s'.calls := by
    rintro t ⟨n, rfl, hn⟩
    exact ⟨n, rfl, Nat.lt_of_lt_of_le hn hextends.calls⟩
  refine ⟨fun t ht => ?_, fun t e ht => ?_, fun n hn => h.inline_returned hs hn, fun t ht => ?_⟩
  · rcases h.returned_cases ht with hold | ⟨-, hdone⟩ | ⟨herror, -⟩ | ⟨herror, -⟩
    · exact hextends.log.subset (hs.done t hold)
    · exact hdone
    · cases herror
    · cases herror
  · rcases h.returned_cases ht with hold | ⟨hok, -⟩ | ⟨herror, rfl, hcalls, hsent⟩ |
      ⟨herror, hwaits, hlost⟩
    · obtain ⟨he, ⟨n, rfl, hn⟩, hlost⟩ := hs.failed t e hold
      refine ⟨he, hcall _ ⟨n, rfl, hn⟩, ?_⟩
      exact hlost.imp (hextends.unsent n hn) fun hdropped => hextends.dropped hdropped
    · cases hok
    -- A request that was refused has not been sent, and its number is used up.
    · cases herror
      refine ⟨.inl rfl, ⟨_, rfl, by omega⟩, .inl ?_⟩
      rw [hsent]
      intro hmem
      exact Nat.lt_irrefl _ (hd.calls _ hmem)
    · cases herror
      exact ⟨.inr rfl, hcall t (hs.waiting t hwaits), .inr hlost⟩
  · rcases h.waiting_cases ht with hold | ⟨rfl, hcalls⟩
    · exact hcall t (hs.waiting t hold)
    · exact ⟨_, rfl, by omega⟩

structure Invariant (s : State) : Prop where
  queued : Queued s
  distinct : Distinct s
  oneAtATime : OneAtATime s
  answered : Answered s

theorem Invariant.step {s s' : State} (hs : Invariant s) (h : Step s s') : Invariant s' where
  queued := hs.queued.step h
  distinct := hs.distinct.step h
  oneAtATime := hs.oneAtATime.step hs.queued hs.distinct h
  answered := hs.answered.step hs.queued hs.distinct h

theorem Invariant.steps {s s' : State} (hs : Invariant s) (h : Steps s s') : Invariant s' := by
  induction h with
  | refl => exact hs
  | tail _ hstep ih => exact ih.step hstep

theorem Reachable.invariant {s : State} (h : Reachable s) : Invariant s :=
  Invariant.steps ⟨queued_start, distinct_start, oneAtATime_start, answered_start⟩ h

theorem Steps.extends {s s' : State} (hs : Invariant s) (h : Steps s s') : Extends s s' := by
  induction h with
  | refl => exact .refl s
  | tail hsteps hstep ih => exact ih.trans (hstep.extends (hs.steps hsteps).queued)

namespace Invariant

variable {s : State}

/-- The tasks are begun in the order in which they were put in the queue. -/
theorem begun_prefix (hs : Invariant s) : s.begun <+: s.enqueued := by
  obtain ⟨rest, hsplit, -, -⟩ := hs.queued.split
  refine ⟨rest.filterMap id, ?_⟩
  rw [enqueued, hsplit, List.filterMap_append]
  rfl

/-- A task that was dropped was not begun. -/
theorem notMem_begun_of_dropped (hs : Invariant s) {t : Ticket} (ht : t ∈ s.dropped) :
    t ∉ s.begun := by
  obtain ⟨rest, hsplit, hopen, hclosed⟩ := hs.queued.split
  have hdropped : s.dropped = rest.filterMap id := by
    cases hhost : s.host.isOpen with
    | false => exact hclosed hhost
    | true =>
      rw [(hopen hhost).2] at ht
      cases ht
  -- What was begun and what was dropped are two parts of a list without repetitions.
  have hnodup : (s.begun ++ rest.filterMap id).Nodup := by
    have hsent := hs.distinct.nodup
    rwa [enqueued, hsplit, List.filterMap_append] at hsent
  rw [hdropped] at ht
  intro hbegun
  exact (List.nodup_append.1 hnodup).2.2 t hbegun t ht rfl

theorem takeWhile_isSome {before rest : List (Option Ticket)} (h : none ∉ before) :
    (before ++ none :: rest).takeWhile Option.isSome = before := by
  induction before with
  | nil => rfl
  | cons ask before ih =>
    cases ask with
    | none => exact absurd List.mem_cons_self h
    | some t =>
      rw [List.cons_append, List.takeWhile_cons_of_pos rfl,
        ih fun hmem => h (List.mem_cons_of_mem _ hmem)]

/-- When the primary thread has stopped, just the tasks that were sent before the first request to
stop have run, all of them to their end. -/
theorem ended_of_stopped (hs : Invariant s) (hstopped : s.looping = false) :
    s.ended = s.enqueuedBeforeStop := by
  obtain ⟨hidle, before, htaken, hbefore⟩ := hs.queued.stopped hstopped
  obtain ⟨rest, hsplit, -, -⟩ := hs.queued.split
  have hsent : s.sent = before ++ none :: rest := by
    rw [hsplit, htaken, List.append_assoc]
    rfl
  have hbegun : s.begun = before.filterMap id := by
    rw [begun, htaken, List.filterMap_append]
    exact List.append_nil _
  have hended := hs.oneAtATime.begun
  rw [State.running, hidle, List.filter_nil, List.append_nil] at hended
  rw [enqueuedBeforeStop, hsent, takeWhile_isSome hbefore, ← hended, hbegun]

/-- A call that reported the loss of its task did so of a task that never runs. -/
theorem notMem_begun_of_failed (hs : Invariant s) {t : Ticket} {e : HostError}
    (ht : (t, .error e) ∈ s.returned) : t ∉ s.begun := by
  rcases (hs.answered.failed t e ht).2.2 with hunsent | hdropped
  · exact fun hbegun => hunsent (hs.begun_prefix.subset hbegun)
  · exact hs.notMem_begun_of_dropped hdropped

/-- The ticks of a ticker that were begun are the first of those that it sent. -/
theorem ticks_begun (hs : Invariant s) (ticker : Nat) :
    ∃ n, s.begun.filterMap (Ticket.argument? ticker) = List.range' 1 n := by
  obtain ⟨last, hlast, -⟩ := hs.distinct.ticks ticker
  have hprefix := hs.begun_prefix.filterMap (Ticket.argument? ticker)
  rw [hlast] at hprefix
  have hlength := hprefix.length_le
  rw [List.length_range'] at hlength
  generalize s.begun.filterMap (Ticket.argument? ticker) = ticks at hprefix hlength
  have hfirst : List.range' 1 ticks.length <+: List.range' 1 last := by
    refine ⟨List.range' (1 + ticks.length) (last - ticks.length), ?_⟩
    rw [List.range'_append_1, Nat.add_sub_cancel' hlength]
  have hsame := List.prefix_of_prefix_length_le hprefix hfirst (by simp)
  exact ⟨ticks.length, hsame.eq_of_length (by rw [List.length_range'])⟩

end Invariant

/-- Until a call on the primary thread has returned, its task is where it was put, over the task
that called for it and under those that it calls for itself, and nothing is taken from the queue. -/
theorem inline_stays {s s' : State} {n : Nat} {outer : List Ticket}
    (hstack : s.stack = .inline n :: outer) (h : Steps s s') :
    (∃ inner, s'.stack = inner ++ .inline n :: outer ∧ s'.taken = s.taken) ∨
      (.inline n, .ok ()) ∈ s'.returned := by
  induction h with
  | refl => exact .inl ⟨[], hstack, rfl⟩
  | @tail s₂ s₃ hsteps hstep ih =>
    rcases ih with ⟨inner, hinner, hsame⟩ | hreturned
    -- Requests are taken in the middle of nothing only, and tasks end from the innermost outwards.
    · cases hstep with
      | begin idle loops took =>
        rw [hinner] at idle
        simp at idle
      | stop idle loops took =>
        rw [hinner] at idle
        simp at idle
      | inline inside =>
        refine .inl ⟨.inline s₂.calls :: inner, ?_, hsame⟩
        show Ticket.inline s₂.calls :: s₂.stack = _
        rw [hinner]
        rfl
      | finish inside queued =>
        rw [hinner] at inside
        cases inner with
        | nil =>
          rw [← (List.cons.inj inside).1] at queued
          cases queued
        | cons top inner => exact .inl ⟨inner, (List.cons.inj inside).2.symm, hsame⟩
      | comeBack inside =>
        rw [hinner] at inside
        cases inner with
        | nil =>
          rw [← (List.cons.inj inside).1]
          exact .inr (List.mem_append_right _ List.mem_cons_self)
        | cons top inner => exact .inl ⟨inner, (List.cons.inj inside).2.symm, hsame⟩
      | _ => exact .inl ⟨inner, hinner, hsame⟩
    · refine .inr ?_
      cases hstep with
      | refuse unsent => exact List.mem_append_left _ hreturned
      | hear waits done => exact List.mem_append_left _ hreturned
      | miss waits lost => exact List.mem_append_left _ hreturned
      | comeBack inside => exact List.mem_append_left _ hreturned
      | _ => exact hreturned

structure Guarantees (s : State) : Prop where
  inOrder : s.begun <+: s.enqueued
  once : s.enqueued.Nodup ∧ s.begun.Nodup
  oneAtATime : s.begun = s.ended ++ s.running ∧ s.running.length ≤ 1
  /-- When the primary thread has stopped, just the tasks that were put in the queue before the
  first request to stop have run. -/
  stopped : s.looping = false → s.ended = s.enqueuedBeforeStop
  done : ∀ t, (t, .ok ()) ∈ s.returned → t ∈ s.host.log
  /-- A call returns with an error only if its task is not begun, then or ever after. -/
  never : ∀ t e, (t, .error e) ∈ s.returned → (e = .unavailable ∨ e = .channel) ∧
    ∀ s', Steps s s' → t ∉ s'.begun
  /-- In the middle of a task, whatever is in the queue and whether anybody asked to stop, another
  task is begun as soon as it is called for. Nothing is taken from the queue before it has come to
  its end, and the call then returns without an error. -/
  inline : s.stack ≠ [] → ∃ s', Step s s' ∧ s'.host = s.host ∧
    s'.stack = .inline s.calls :: s.stack ∧ ∀ s'', Steps s' s'' →
      (∃ inner, s''.stack = inner ++ .inline s.calls :: s.stack ∧ s''.taken = s.taken) ∨
        (.inline s.calls, .ok ()) ∈ s''.returned
  inlineOk : ∀ n result, (.inline n, result) ∈ s.returned → result = .ok ()
  ticks : ∀ ticker, ∃ n, s.begun.filterMap (Ticket.argument? ticker) = List.range' 1 n

/-- In whatever order requests are sent, taken and answered, the host keeps its promises. -/
theorem guarantees_of_reachable (s : State) (h : Reachable s) : Guarantees s := by
  have hs := h.invariant
  exact {
    inOrder := hs.begun_prefix
    once := ⟨hs.distinct.nodup, hs.distinct.nodup.sublist hs.begun_prefix.sublist⟩
    oneAtATime := ⟨hs.oneAtATime.begun, hs.oneAtATime.running⟩
    stopped := hs.ended_of_stopped
    done := hs.answered.done
    never := by
      intro t e ht
      refine ⟨(hs.answered.failed t e ht).1, fun s' hsteps => ?_⟩
      have hlater := (Steps.extends hs hsteps).returned.subset ht
      exact (hs.steps hsteps).notMem_begun_of_failed hlater
    inline := by
      intro inside
      refine ⟨_, .inline inside, rfl, rfl, fun s'' hsteps => ?_⟩
      have hstays := inline_stays rfl hsteps
      exact hstays
    inlineOk := by
      rintro n (e | ⟨⟨⟩⟩) hn
      · obtain ⟨-, ⟨m, hm, -⟩, -⟩ := hs.answered.failed _ e hn
        cases hm
      · rfl
    ticks := hs.ticks_begun }

/-- A task calls for another while a thread waits for it and a ticker ticks; then somebody asks the
primary thread to stop. A call after that is lost, and one after the end of the queue refused. -/
theorem guarantees_of_stopped_host :
    ∃ s, Reachable s ∧ s.ended = [.call 0, .tick 0 1] ∧
      s.returned = [(.inline 1, .ok ()), (.call 0, .ok ()), (.call 2, .error .channel),
        (.call 3, .error .unavailable)] ∧ Guarantees s := by
  have hsent := (Relation.ReflTransGen.single (Step.call (s := start) true rfl)).tail
    (@Step.tick _ 0 0 _ rfl rfl)
  have hinside := (hsent.tail (.begin (t := .call 0) rfl rfl rfl)).tail
    (.inline (List.cons_ne_nil _ _))
  have hlate := (hinside.tail (.shutdown rfl)).tail (.call true rfl)
  have hended := (hlate.tail (.comeBack rfl)).tail (.finish rfl rfl)
  have hheard := hended.tail (.hear (t := .call 0) (by decide) (by decide))
  have hticked := (hheard.tail (.begin (t := .tick 0 1) rfl rfl rfl)).tail (.finish rfl rfl)
  have hleft := (hticked.tail (.stop rfl rfl rfl)).tail (.leave rfl rfl)
  have hmissed := hleft.tail (.miss (t := .call 2) (by decide) (by decide))
  have hreached := hmissed.tail (.refuse rfl)
  exact ⟨_, hreached, rfl, rfl, guarantees_of_reachable _ hreached⟩

end AbilityScript.Protocol
