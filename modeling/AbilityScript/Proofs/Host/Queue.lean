import AbilityScript.Proofs.Host.Protocol

namespace AbilityScript.Protocol

open State

/-- How the queue stands: of what was sent, the first part was taken, and the rest waits, or was
dropped when the primary thread gave up its end. -/
structure Queued (s : State) : Prop where
  split : ∃ rest, s.sent = s.taken ++ rest ∧
    (s.host.isOpen = true → s.host.queue = rest.map request ∧ s.dropped = []) ∧
    (s.host.isOpen = false → s.dropped = rest.filterMap id)
  loops : s.looping = true → s.host.isOpen = true ∧ none ∉ s.taken
  stopped : s.looping = false → s.stack = [] ∧ ∃ before, s.taken = before ++ [none] ∧ none ∉ before

theorem queued_start : Queued start where
  split := ⟨[], rfl, fun _ => ⟨rfl, rfl⟩, fun hclosed => Bool.noConfusion hclosed⟩
  loops _ := ⟨rfl, List.not_mem_nil⟩
  stopped hstopped := Bool.noConfusion hstopped

/-- A request that is sent goes to the end of the queue. -/
theorem Queued.enqueue {s : State} (hs : Queued s) (ask : Option Ticket) {host : Host Ticket}
    (hsent : s.host.send (request ask) = .ok host) : Queued (s.enqueue ask host) := by
  obtain ⟨hopen, rfl⟩ := Host.send_eq_ok_iff.1 hsent
  obtain ⟨rest, hsplit, hheld, -⟩ := hs.split
  obtain ⟨hqueue, hdropped⟩ := hheld hopen
  refine ⟨⟨rest ++ [ask], ?_, fun _ => ⟨?_, hdropped⟩, fun hclosed => ?_⟩, hs.loops, hs.stopped⟩
  · show s.sent ++ [ask] = s.taken ++ (rest ++ [ask])
    rw [hsplit, List.append_assoc]
  · show s.host.queue ++ [request ask] = (rest ++ [ask]).map request
    rw [hqueue, List.map_append]
    rfl
  · have hclosed' : s.host.isOpen = false := hclosed
    rw [hopen] at hclosed'
    cases hclosed'

/-- All that the primary thread can take is what was sent. -/
theorem Queued.exists_of_take {s : State} (hs : Queued s) {r : Request Ticket} {host : Host Ticket}
    (htook : s.host.take? = some (r, host)) :
    ∃ ask rest, r = request ask ∧ s.sent = s.taken ++ ask :: rest ∧
      host = { s.host with queue := rest.map request } ∧ s.host.isOpen = true ∧ s.dropped = [] := by
  obtain ⟨hopen, queue, hqueue, rfl⟩ := Host.take?_eq_some_iff.1 htook
  obtain ⟨rest, hsplit, hheld, -⟩ := hs.split
  obtain ⟨hrequests, hdropped⟩ := hheld hopen
  rw [hqueue] at hrequests
  cases rest with
  | nil => cases hrequests
  | cons ask rest =>
    obtain ⟨rfl, rfl⟩ := List.cons.inj hrequests
    exact ⟨ask, rest, rfl, hsplit, rfl, hopen, hdropped⟩

theorem request_injective {ask ask' : Option Ticket} (h : request ask = request ask') :
    ask = ask' := by
  cases ask with
  | none => cases ask' with
    | none => rfl
    | some u => cases h
  | some t => cases ask' with
    | none => cases h
    | some u =>
      have hentries : [t] = [u] := congrArg tasksOf h
      rw [List.singleton_injective hentries]

/-- What the primary thread takes is what was sent first of all that it has not taken. -/
theorem Queued.sent_of_take {s : State} (hs : Queued s) {ask : Option Ticket} {host : Host Ticket}
    (htook : s.host.take? = some (request ask, host)) :
    ∃ rest, s.sent = s.taken ++ ask :: rest ∧
      host = { s.host with queue := rest.map request } ∧ s.host.isOpen = true ∧ s.dropped = [] := by
  obtain ⟨ask', rest, hrequest, hsplit, hhost, hopen, hdropped⟩ := hs.exists_of_take htook
  obtain rfl := request_injective hrequest
  exact ⟨rest, hsplit, hhost, hopen, hdropped⟩

theorem Queued.step {s s' : State} (hs : Queued s) (h : Step s s') : Queued s' := by
  cases h with
  | call waits sent =>
    obtain ⟨hsplit, hloops, hstopped⟩ := hs.enqueue (some (.call s.calls)) sent
    exact ⟨hsplit, hloops, hstopped⟩
  | @tick ticker last host ticks sent =>
    obtain ⟨hsplit, hloops, hstopped⟩ := hs.enqueue (some (.tick ticker (last + 1))) sent
    exact ⟨hsplit, hloops, hstopped⟩
  | shutdown sent => exact hs.enqueue none sent
  | @begin t host idle loops took =>
    -- Only the front of the queue moves, from what waits to what was taken.
    have hask : s.host.take? = some (request (some t), host) := took
    obtain ⟨rest, hsplit, rfl, hopen, hdropped⟩ := hs.sent_of_take hask
    obtain ⟨-, htaken⟩ := hs.loops loops
    refine ⟨⟨rest, ?_, fun _ => ⟨rfl, hdropped⟩, fun hclosed => ?_⟩, fun _ => ⟨hopen, ?_⟩,
      fun hstopped => ?_⟩
    · show s.sent = (s.taken ++ [some t]) ++ rest
      rw [hsplit, List.append_assoc]
      rfl
    · exact Bool.noConfusion (hopen.symm.trans hclosed)
    · show none ∉ s.taken ++ [some t]
      simpa using htaken
    · exact Bool.noConfusion (loops.symm.trans hstopped)
  | @stop host idle loops took =>
    have hask : s.host.take? = some (request none, host) := took
    obtain ⟨rest, hsplit, rfl, hopen, hdropped⟩ := hs.sent_of_take hask
    obtain ⟨-, htaken⟩ := hs.loops loops
    refine ⟨⟨rest, ?_, fun _ => ⟨rfl, hdropped⟩, fun hclosed => ?_⟩,
      fun hloops => Bool.noConfusion hloops, fun _ => ⟨idle, s.taken, rfl, htaken⟩⟩
    · show s.sent = (s.taken ++ [none]) ++ rest
      rw [hsplit, List.append_assoc]
      rfl
    · exact Bool.noConfusion (hopen.symm.trans hclosed)
  -- A primary thread that has stopped is in the middle of nothing, so no task there can go on.
  | inline inside =>
    refine ⟨hs.split, hs.loops, fun hstopped => ?_⟩
    exact absurd (hs.stopped hstopped).1 inside
  | finish inside queued =>
    refine ⟨hs.split, hs.loops, fun hstopped => ?_⟩
    have hempty := (hs.stopped hstopped).1
    rw [inside] at hempty
    cases hempty
  | comeBack inside =>
    refine ⟨hs.split, hs.loops, fun hstopped => ?_⟩
    have hempty := (hs.stopped hstopped).1
    rw [inside] at hempty
    cases hempty
  | leave stopped held =>
    obtain ⟨rest, hsplit, hheld, -⟩ := hs.split
    refine ⟨⟨rest, hsplit, fun hopen => Bool.noConfusion hopen, fun _ => ?_⟩,
      fun hloops => Bool.noConfusion (hloops.symm.trans stopped), hs.stopped⟩
    show s.host.queue.flatMap tasksOf = rest.filterMap id
    rw [(hheld held).1, tasksOf_requests]
  | _ => exact ⟨hs.split, hs.loops, hs.stopped⟩

/-- How the tasks are told apart: calls by numbers that were not used before, and the ticks of one
ticker by their arguments, which are 1, 2, 3 and so on. -/
structure Distinct (s : State) : Prop where
  queued : ∀ t ∈ s.enqueued, t.isQueued = true
  calls : ∀ n, Ticket.call n ∈ s.enqueued → n < s.calls
  ticks : ∀ ticker, ∃ last, s.enqueued.filterMap (Ticket.argument? ticker) = List.range' 1 last ∧
    ∀ k, s.tickers ticker = some k → last = k
  nodup : s.enqueued.Nodup

theorem distinct_start : Distinct start where
  queued _ ht := absurd ht List.not_mem_nil
  calls _ hn := absurd hn List.not_mem_nil
  ticks _ := ⟨0, rfl, fun _ hk => Option.some.inj hk⟩
  nodup := List.nodup_nil

theorem enqueued_append (s : State) (t : Ticket) :
    (s.sent ++ [some t]).filterMap id = s.enqueued ++ [t] := by
  rw [List.filterMap_append]
  rfl

theorem enqueued_stop (s : State) : (s.sent ++ [none]).filterMap id = s.enqueued := by
  rw [List.filterMap_append]
  exact List.append_nil _

/-- Another task keeps the tasks distinct if its number or its argument is the next. -/
theorem Distinct.add {s s' : State} (hs : Distinct s) {t : Ticket}
    (hsent : s'.enqueued = s.enqueued ++ [t]) (hqueued : t.isQueued = true)
    (hnew : t ∉ s.enqueued) (hcalls : s.calls ≤ s'.calls)
    (hcall : ∀ n, t = .call n → n < s'.calls)
    (hticks : ∀ ticker, ∃ last,
      (s.enqueued ++ [t]).filterMap (Ticket.argument? ticker) = List.range' 1 last ∧
        ∀ k, s'.tickers ticker = some k → last = k) : Distinct s' := by
  refine ⟨fun u hu => ?_, fun n hn => ?_, fun ticker => ?_, ?_⟩
  · rw [hsent] at hu
    rcases List.mem_append.1 hu with hold | hlast
    · exact hs.queued u hold
    · rw [List.mem_singleton.1 hlast]
      exact hqueued
  · rw [hsent] at hn
    rcases List.mem_append.1 hn with hold | hlast
    · exact Nat.lt_of_lt_of_le (hs.calls n hold) hcalls
    · exact hcall n (List.mem_singleton.1 hlast).symm
  · rw [hsent]
    exact hticks ticker
  · rw [hsent]
    refine List.nodup_append.2 ⟨hs.nodup, List.nodup_singleton t, ?_⟩
    rintro u hu v hv rfl
    obtain rfl := List.mem_singleton.1 hv
    exact hnew hu

theorem Distinct.step {s s' : State} (hs : Distinct s) (h : Step s s') : Distinct s' := by
  cases h with
  | @call waits host sent =>
    refine hs.add (enqueued_append s _) rfl ?_ (Nat.le_succ _) ?_ fun ticker => ?_
    · intro hmem
      exact Nat.lt_irrefl _ (hs.calls _ hmem)
    · intro n hn
      cases hn
      exact Nat.lt_succ_self _
    · obtain ⟨last, hlast, htickers⟩ := hs.ticks ticker
      refine ⟨last, ?_, htickers⟩
      rw [List.filterMap_append, hlast]
      exact List.append_nil _
  | @tick ticker last host ticks sent =>
    obtain ⟨last', hlast, htickers⟩ := hs.ticks ticker
    obtain rfl : last' = last := htickers last ticks
    refine hs.add (enqueued_append s _) rfl ?_ (Nat.le_refl _) ?_ fun other => ?_
    -- All ticks that were sent before have smaller arguments.
    · intro hmem
      have hargument : last' + 1 ∈ s.enqueued.filterMap (Ticket.argument? ticker) :=
        List.mem_filterMap.2 ⟨_, hmem, if_pos rfl⟩
      rw [hlast, List.mem_range'_1] at hargument
      omega
    · intro n hn
      cases hn
    · by_cases hother : ticker = other
      · obtain rfl := hother
        refine ⟨last' + 1, ?_, fun k hk => ?_⟩
        · have hnext : [Ticket.tick ticker (last' + 1)].filterMap (Ticket.argument? ticker) =
              [last' + 1] := by simp [Ticket.argument?]
          rw [List.filterMap_append, hlast, hnext, List.range'_1_concat, Nat.add_comm 1 last']
        · have hk' : Function.update s.tickers ticker (some (last' + 1)) ticker = some k := hk
          rw [Function.update_self] at hk'
          exact Option.some.inj hk'
      · obtain ⟨before, hbefore, hothers⟩ := hs.ticks other
        refine ⟨before, ?_, fun k hk => ?_⟩
        · have hnone : [Ticket.tick ticker (last' + 1)].filterMap (Ticket.argument? other) =
              [] := by simp [Ticket.argument?, hother]
          rw [List.filterMap_append, hbefore, hnone, List.append_nil]
        · have hk' : Function.update s.tickers ticker (some (last' + 1)) other = some k := hk
          rw [Function.update_of_ne (Ne.symm hother)] at hk'
          exact hothers k hk'
  | shutdown sent =>
    obtain ⟨hqueued, hcalls, hticks, hnodup⟩ := hs
    rw [← enqueued_stop] at hqueued hcalls hticks hnodup
    exact ⟨hqueued, hcalls, hticks, hnodup⟩
  | refuse unsent =>
    exact ⟨hs.queued, fun n hn => Nat.lt_succ_of_lt (hs.calls n hn), hs.ticks, hs.nodup⟩
  | inline inside =>
    exact ⟨hs.queued, fun n hn => Nat.lt_succ_of_lt (hs.calls n hn), hs.ticks, hs.nodup⟩
  | @endTicker ticker last e ticks unsent =>
    refine ⟨hs.queued, hs.calls, fun other => ?_, hs.nodup⟩
    obtain ⟨before, hbefore, hothers⟩ := hs.ticks other
    refine ⟨before, hbefore, fun k hk => hothers k ?_⟩
    have hk' : Function.update s.tickers ticker none other = some k := hk
    -- A ticker that has ended has no argument to go on from.
    by_cases hother : other = ticker
    · obtain rfl := hother
      rw [Function.update_self] at hk'
      cases hk'
    · rw [Function.update_of_ne hother] at hk'
      exact hk'
  | _ => exact ⟨hs.queued, hs.calls, hs.ticks, hs.nodup⟩

/-- A task that the primary thread takes is none that was called for in another. -/
theorem Distinct.isQueued_of_take {s : State} (hd : Distinct s) (hq : Queued s) {t : Ticket}
    {host : Host Ticket} (took : s.host.take? = some (.run t.job, host)) : t.isQueued = true := by
  have hask : s.host.take? = some (request (some t), host) := took
  obtain ⟨rest, hsplit, -⟩ := hq.sent_of_take hask
  refine hd.queued t (List.mem_filterMap.2 ⟨some t, ?_, rfl⟩)
  rw [hsplit]
  exact List.mem_append_right _ List.mem_cons_self

/-- How the primary thread stands: it is in the middle of one task from the queue at most, which is
the last that was begun, and all those before it came to their end. -/
structure OneAtATime (s : State) : Prop where
  begun : s.begun = s.ended ++ s.running
  running : s.running.length ≤ 1

theorem oneAtATime_start : OneAtATime start :=
  ⟨rfl, Nat.zero_le 1⟩

theorem ended_append {s : State} (t : Ticket) :
    (s.host.log ++ [t]).filter Ticket.isQueued =
      s.ended ++ if t.isQueued then [t] else [] := by
  rw [List.filter_append, List.filter_singleton, Bool.cond_eq_ite]
  rfl

theorem OneAtATime.step {s s' : State} (hq : Queued s) (hd : Distinct s) (hs : OneAtATime s)
    (h : Step s s') : OneAtATime s' := by
  cases h with
  | @call waits host sent =>
    obtain ⟨-, rfl⟩ := Host.send_eq_ok_iff.1 sent
    exact ⟨hs.begun, hs.running⟩
  | @tick ticker last host ticks sent =>
    obtain ⟨-, rfl⟩ := Host.send_eq_ok_iff.1 sent
    exact ⟨hs.begun, hs.running⟩
  | shutdown sent =>
    obtain ⟨-, rfl⟩ := Host.send_eq_ok_iff.1 sent
    exact ⟨hs.begun, hs.running⟩
  | @begin t host idle loops took =>
    have hqueued := hd.isQueued_of_take hq took
    obtain ⟨-, queue, -, rfl⟩ := Host.take?_eq_some_iff.1 took
    have hbegun := hs.begun
    have hidle : s.running = [] := by rw [State.running, idle]; rfl
    rw [hidle, List.append_nil] at hbegun
    refine ⟨?_, ?_⟩
    · show (s.taken ++ [some t]).filterMap id = s.ended ++ [t].filter Ticket.isQueued
      rw [List.filterMap_append, List.filter_singleton, hqueued, ← hbegun]
      rfl
    · exact List.length_filter_le _ [t]
  | stop idle loops took =>
    obtain ⟨-, queue, -, rfl⟩ := Host.take?_eq_some_iff.1 took
    refine ⟨?_, hs.running⟩
    show (s.taken ++ [none]).filterMap id = s.ended ++ s.running
    rw [List.filterMap_append, ← hs.begun]
    exact List.append_nil _
  | inline inside => exact ⟨hs.begun, hs.running⟩
  | @finish t outer inside queued =>
    have hrunning : s.running = t :: outer.filter Ticket.isQueued := by
      rw [State.running, inside, List.filter_cons_of_pos queued]
    have hlength := hs.running
    have hbegun := hs.begun
    rw [hrunning, List.length_cons] at hlength
    -- Whatever the task was called for in is not from the queue, since the task itself is.
    have houter : outer.filter Ticket.isQueued = [] := List.eq_nil_of_length_eq_zero (by omega)
    rw [hrunning, houter] at hbegun
    refine ⟨?_, ?_⟩
    · show s.begun = (s.host.log ++ [t]).filter Ticket.isQueued ++ outer.filter Ticket.isQueued
      rw [ended_append, if_pos queued, houter, List.append_nil]
      exact hbegun
    · show (outer.filter Ticket.isQueued).length ≤ 1
      rw [houter]
      exact Nat.zero_le 1
  | @comeBack number outer inside =>
    have hrunning : s.running = outer.filter Ticket.isQueued := by
      rw [State.running, inside]
      rfl
    refine ⟨?_, ?_⟩
    · show s.begun = (s.host.log ++ [Ticket.inline number]).filter Ticket.isQueued ++
        outer.filter Ticket.isQueued
      rw [ended_append, ← hrunning]
      exact hs.begun.trans (by simp [Ticket.isQueued])
    · show (outer.filter Ticket.isQueued).length ≤ 1
      rw [← hrunning]
      exact hs.running
  | _ => exact ⟨hs.begun, hs.running⟩

end AbilityScript.Protocol
