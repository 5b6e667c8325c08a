import AbilityScript.Proofs.Host.Guarantees

namespace AbilityScript

namespace Host

variable {ε : Type}

/-- A host that is still open has lost no request but the one that was taken. -/
theorem queue_receive {h : Host ε} (hopen : h.receive.isOpen = true) :
    h.receive.queue = h.queue.tail := by
  rcases h with ⟨_ | _, _ | ⟨job | _, rest⟩, log⟩
  · cases hopen
  · cases hopen
  · cases hopen
  · rfl
  · by_cases hpanics : job.panics = true
    · simp [receive, take?, perform, close, hpanics] at hopen
    · simp [receive, take?, perform, hpanics]
  · cases hopen

theorem isOpen_of_receive {h : Host ε} (hopen : h.receive.isOpen = true) : h.isOpen = true := by
  rcases h with ⟨_ | _, queue, log⟩
  · cases hopen
  · rfl

theorem queue_repeat_receive (h : Host ε) (n : Nat) (hopen : (n.repeat receive h).isOpen = true) :
    (n.repeat receive h).queue = h.queue.drop n := by
  induction n with
  | zero => rfl
  | succ n ih =>
    have hbefore := ih (isOpen_of_receive hopen)
    have hlast : (n.repeat receive h).receive.queue = (n.repeat receive h).queue.tail :=
      queue_receive hopen
    show (n.repeat receive h).receive.queue = h.queue.drop (n + 1)
    rw [hlast, hbefore, List.tail_drop]

/-- An open host that has come to rest has nothing left to do. -/
theorem queue_settle {h : Host ε} (hopen : h.settle.isOpen = true) : h.settle.queue = [] := by
  have hqueue := h.queue_repeat_receive h.queue.length hopen
  rwa [List.drop_length] at hqueue

end Host

namespace Protocol

structure AtRest (s : State) : Prop where
  idle : s.stack = []
  stands : s.looping = true ∨ s.host.isOpen = false

structure Settling (s s' : State) : Prop where
  steps : Steps s s'
  rest : AtRest s'
  sent : s'.sent = s.sent
  waiting : s'.waiting = s.waiting

/-- What the primary thread does with one request, it does in a few steps. -/
theorem settling_receive {s : State} (hs : Invariant s) (hrest : AtRest s) :
    ∃ s', Settling s s' ∧ s'.host = s.host.receive := by
  cases htook : s.host.take? with
  | none =>
    refine ⟨s, ⟨.refl, hrest, rfl, rfl⟩, ?_⟩
    rw [Host.receive, htook]
  | some taken =>
    obtain ⟨r, host⟩ := taken
    obtain ⟨ask, rest, rfl, -, hhost, hopen, -⟩ := hs.queued.exists_of_take htook
    have hloops : s.looping = true := hrest.stands.resolve_right fun hclosed =>
      Bool.noConfusion (hopen.symm.trans hclosed)
    cases ask with
    | some t =>
      have hqueued := hs.distinct.isQueued_of_take hs.queued htook
      have hbegin := Step.begin hrest.idle hloops htook
      have hfinish := Step.finish (s := { s with
        host := host, stack := [t], taken := s.taken ++ [some t] }) rfl hqueued
      refine ⟨_, ⟨(Relation.ReflTransGen.single hbegin).tail hfinish, ⟨rfl, .inl hloops⟩, rfl,
        rfl⟩, ?_⟩
      rw [Host.receive, htook]
      rfl
    | none =>
      have hstop := Step.stop hrest.idle hloops htook
      have hheld : host.isOpen = true := by
        rw [hhost]
        exact hopen
      have hleave := Step.leave (s := { s with
        host := host, looping := false, taken := s.taken ++ [none] }) rfl hheld
      refine ⟨_, ⟨(Relation.ReflTransGen.single hstop).tail hleave, ⟨hrest.idle, .inr rfl⟩, rfl,
        rfl⟩, ?_⟩
      rw [Host.receive, htook]
      rfl

theorem settling_settle {s : State} (hs : Invariant s) (hrest : AtRest s) :
    ∃ s', Settling s s' ∧ s'.host = s.host.settle := by
  have hrepeat : ∀ n : Nat, ∃ s', Settling s s' ∧ s'.host = n.repeat Host.receive s.host := by
    intro n
    induction n with
    | zero => exact ⟨s, ⟨.refl, hrest, rfl, rfl⟩, rfl⟩
    | succ n ih =>
      obtain ⟨s₁, hfirst, hhost⟩ := ih
      obtain ⟨s₂, hlast, hhost'⟩ := settling_receive (hs.steps hfirst.steps) hfirst.rest
      refine ⟨s₂, ⟨hfirst.steps.trans hlast.steps, hlast.rest, hlast.sent.trans hfirst.sent,
        hlast.waiting.trans hfirst.waiting⟩, ?_⟩
      rw [hhost', hhost]
      rfl
  exact hrepeat s.host.queue.length

/-- With nothing left to take and nothing going on, all that was sent is done. -/
theorem done_of_sent {s : State} (hs : Invariant s) (hidle : s.stack = [])
    (hopen : s.host.isOpen = true) (hqueue : s.host.queue = []) {t : Ticket}
    (hsent : some t ∈ s.sent) : t ∈ s.host.log := by
  obtain ⟨rest, hsplit, hheld, -⟩ := hs.queued.split
  have hnone : rest = [] := by
    have hrequests := (hheld hopen).1
    rw [hqueue] at hrequests
    exact List.map_eq_nil_iff.1 hrequests.symm
  have hbegun : t ∈ s.begun := by
    refine List.mem_filterMap.2 ⟨some t, ?_, rfl⟩
    rwa [hsplit, hnone, List.append_nil] at hsent
  rw [hs.oneAtATime.begun, State.running, hidle, List.filter_nil, List.append_nil] at hbegun
  exact List.mem_of_mem_filter hbegun

/-- What the primary thread takes last is a request to stop, so a task that was sent last of all is
lost if the queue is gone. -/
theorem dropped_of_sent_last {s : State} (hs : Invariant s) (hclosed : s.host.isOpen = false)
    {before : List (Option Ticket)} {t : Ticket} (hsent : s.sent = before ++ [some t]) :
    t ∈ s.dropped := by
  have hstopped : s.looping = false := by
    cases hloops : s.looping with
    | false => rfl
    | true => exact Bool.noConfusion ((hs.queued.loops hloops).1.symm.trans hclosed)
  obtain ⟨-, taken, htaken, -⟩ := hs.queued.stopped hstopped
  obtain ⟨rest, hsplit, -, hlost⟩ := hs.queued.split
  have hlast : (s.taken ++ rest).getLast? = some (some t) := by
    rw [← hsplit, hsent, List.getLast?_append]
    rfl
  rw [hlost hclosed]
  refine List.mem_filterMap.2 ⟨some t, ?_, rfl⟩
  cases rest with
  | nil =>
    rw [List.append_nil, htaken, List.getLast?_append] at hlast
    cases hlast
  | cons ask rest =>
    rw [List.getLast?_append_of_ne_nil _ (List.cons_ne_nil _ _)] at hlast
    exact List.mem_of_getLast? hlast

/-- A call that lets the host come to rest before it returns is a call as any, with a result that it
can have among others. -/
theorem steps_runAndWait {s : State} (hs : Invariant s) (hrest : AtRest s) :
    ∃ s', Steps s s' ∧ AtRest s' ∧ s'.host = (s.host.runAndWait (Ticket.call s.calls).job).2 ∧
      (.call s.calls, (s.host.runAndWait (Ticket.call s.calls).job).1) ∈ s'.returned := by
  cases hsend : s.host.send (.run (Ticket.call s.calls).job) with
  | error e =>
    refine ⟨_, .single (.refuse hsend), ⟨hrest.idle, hrest.stands⟩, ?_, ?_⟩
    · rw [Host.runAndWait, hsend]
      rfl
    · rw [Host.runAndWait, hsend]
      exact List.mem_append_right _ List.mem_cons_self
  | ok host =>
    have hcall := Step.call true hsend
    have hstands : s.looping = true ∨ host.isOpen = false := by
      obtain ⟨-, rfl⟩ := Host.send_eq_ok_iff.1 hsend
      exact hrest.stands
    obtain ⟨s₂, hsettling, hhost⟩ := settling_settle (hs.step hcall) ⟨hrest.idle, hstands⟩
    have hs₂ := (hs.step hcall).steps hsettling.steps
    have hwaits : Ticket.call s.calls ∈ s₂.waiting := by
      rw [hsettling.waiting]
      exact List.mem_append_right _ List.mem_cons_self
    have hsent : s₂.sent = s.sent ++ [some (.call s.calls)] := hsettling.sent
    have hsteps : Steps s s₂ := (Relation.ReflTransGen.single hcall).trans hsettling.steps
    have hhost' : s₂.host = host.settle := hhost
    cases hopen : host.settle.isOpen with
    | true =>
      have hdone : Ticket.call s.calls ∈ s₂.host.log := by
        refine done_of_sent hs₂ hsettling.rest.idle ?_ ?_ ?_
        · rw [hhost', hopen]
        · rw [hhost', Host.queue_settle hopen]
        · rw [hsent]
          exact List.mem_append_right _ List.mem_cons_self
      refine ⟨_, hsteps.tail (.hear hwaits hdone), ⟨hsettling.rest.idle, hsettling.rest.stands⟩,
        ?_, ?_⟩
      · rw [Host.runAndWait, hsend]
        exact hhost'
      · simp only [Host.runAndWait, hsend, hopen, if_true]
        exact List.mem_append_right _ List.mem_cons_self
    | false =>
      have hdropped : Ticket.call s.calls ∈ s₂.dropped := by
        refine dropped_of_sent_last hs₂ ?_ hsent
        rw [hhost', hopen]
      refine ⟨_, hsteps.tail (.miss hwaits hdropped),
        ⟨hsettling.rest.idle, hsettling.rest.stands⟩, ?_, ?_⟩
      · rw [Host.runAndWait, hsend]
        exact hhost'
      · simp only [Host.runAndWait, hsend, hopen, Bool.false_eq_true, if_false]
        exact List.mem_append_right _ List.mem_cons_self

end Protocol

end AbilityScript
