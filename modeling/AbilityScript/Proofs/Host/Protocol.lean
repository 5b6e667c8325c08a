import Mathlib.Data.List.Nodup
import Mathlib.Logic.Function.Basic
import Mathlib.Logic.Relation
import AbilityScript.Host

/-!
The threaded host as all its parties see it. Any thread may send a request at any moment, also while
the primary thread is in the middle of a task, and one that waits for a task hears of its end, or of
its loss, some time later. The primary thread first stops to take requests and only then gives up
its end of the queue, so there is a time in which requests are accepted that nobody will take.
-/
namespace AbilityScript

namespace Host

variable {ε : Type} {h h' : Host ε} {r : Request ε} {e : HostError}

theorem send_eq_ok_iff :
    h.send r = .ok h' ↔ h.isOpen = true ∧ h' = { h with queue := h.queue ++ [r] } := by
  by_cases hopen : h.isOpen = true
  · rw [send, if_pos hopen]
    constructor
    · intro heq
      cases heq
      exact ⟨hopen, rfl⟩
    · rintro ⟨-, rfl⟩
      rfl
  · rw [send, if_neg hopen]
    constructor
    · intro heq
      cases heq
    · intro hsent
      exact absurd hsent.1 hopen

theorem send_eq_error_iff : h.send r = .error e ↔ h.isOpen = false ∧ e = .unavailable := by
  by_cases hopen : h.isOpen = true
  · rw [send, if_pos hopen, hopen]
    constructor
    · intro heq
      cases heq
    · intro hclosed
      cases hclosed.1
  · rw [send, if_neg hopen, Bool.eq_false_iff.2 hopen]
    constructor
    · intro heq
      cases heq
      exact ⟨rfl, rfl⟩
    · rintro ⟨-, rfl⟩
      rfl

theorem take?_eq_some_iff :
    h.take? = some (r, h') ↔
      h.isOpen = true ∧ ∃ rest, h.queue = r :: rest ∧ h' = { h with queue := rest } := by
  rcases h with ⟨_ | _, _ | ⟨first, rest⟩, log⟩
  · simp [take?]
  · simp [take?]
  · simp [take?]
  · simp only [take?, Option.some.injEq, Prod.mk.injEq, List.cons.injEq, true_and]
    constructor
    · rintro ⟨rfl, rfl⟩
      exact ⟨rest, ⟨rfl, rfl⟩, rfl⟩
    · rintro ⟨rest', ⟨rfl, rfl⟩, rfl⟩
      exact ⟨rfl, rfl⟩

end Host

namespace Protocol

inductive Ticket where
  | call (number : Nat)
  | inline (number : Nat)
  | tick (ticker argument : Nat)
  deriving DecidableEq

namespace Ticket

def job (t : Ticket) : Job Ticket := ⟨[t], false⟩

def isQueued : Ticket → Bool
  | inline _ => false
  | _ => true

def argument? (ticker : Nat) : Ticket → Option Nat
  | tick other argument => if other = ticker then some argument else none
  | _ => none

end Ticket

def request : Option Ticket → Request Ticket
  | some t => .run t.job
  | none => .shutdown

def tasksOf : Request Ticket → List Ticket
  | .run job => job.entries
  | .shutdown => []

/-- The host with all that goes on around it. The lists of what was sent, taken, dropped and
returned record what has happened so far. -/
structure State where
  host : Host Ticket
  /-- Whether the primary thread still takes requests from the queue. -/
  looping : Bool
  /-- The tasks that the primary thread is in the middle of, the innermost first. -/
  stack : List Ticket
  sent : List (Option Ticket)
  taken : List (Option Ticket)
  /-- The tasks that were lost with the queue. -/
  dropped : List Ticket
  waiting : List Ticket
  returned : List (Ticket × Except HostError Unit)
  calls : Nat
  /-- The argument of the last tick of each ticker that has not ended. -/
  tickers : Nat → Option Nat

namespace State

def start : State where
  host := .new
  looping := true
  stack := []
  sent := []
  taken := []
  dropped := []
  waiting := []
  returned := []
  calls := 0
  tickers := fun _ => some 0

def enqueued (s : State) : List Ticket :=
  s.sent.filterMap id

def begun (s : State) : List Ticket :=
  s.taken.filterMap id

def ended (s : State) : List Ticket :=
  s.host.log.filter Ticket.isQueued

def running (s : State) : List Ticket :=
  s.stack.filter Ticket.isQueued

def enqueuedBeforeStop (s : State) : List Ticket :=
  (s.sent.takeWhile Option.isSome).filterMap id

def enqueue (ask : Option Ticket) (host : Host Ticket) (s : State) : State :=
  { s with host := host, sent := s.sent ++ [ask] }

def answer (t : Ticket) (result : Except HostError Unit) (s : State) : State :=
  { s with returned := s.returned ++ [(t, result)] }

end State

open State

/-- One thing that happens on one of the threads. A request to stop that is refused is no step, as
nobody takes notice of it. -/
inductive Step (s : State) : State → Prop
  | call (waits : Bool) {host} (sent : s.host.send (.run (Ticket.call s.calls).job) = .ok host) :
      Step s { s.enqueue (some (.call s.calls)) host with
        calls := s.calls + 1
        waiting := if waits then s.waiting ++ [.call s.calls] else s.waiting }
  | refuse {e} (unsent : s.host.send (.run (Ticket.call s.calls).job) = .error e) :
      Step s { s.answer (.call s.calls) (.error e) with calls := s.calls + 1 }
  | hear {t} (waits : t ∈ s.waiting) (done : t ∈ s.host.log) :
      Step s { s.answer t (.ok ()) with waiting := s.waiting.erase t }
  | miss {t} (waits : t ∈ s.waiting) (lost : t ∈ s.dropped) :
      Step s { s.answer t (.error .channel) with waiting := s.waiting.erase t }
  | tick {ticker last host} (ticks : s.tickers ticker = some last)
      (sent : s.host.send (.run (Ticket.tick ticker (last + 1)).job) = .ok host) :
      Step s { s.enqueue (some (.tick ticker (last + 1))) host with
        tickers := Function.update s.tickers ticker (some (last + 1)) }
  | endTicker {ticker last e} (ticks : s.tickers ticker = some last)
      (unsent : s.host.send (.run (Ticket.tick ticker (last + 1)).job) = .error e) :
      Step s { s with tickers := Function.update s.tickers ticker none }
  | shutdown {host} (sent : s.host.send .shutdown = .ok host) : Step s (s.enqueue none host)
  | begin {t host} (idle : s.stack = []) (loops : s.looping = true)
      (took : s.host.take? = some (.run (Ticket.job t), host)) :
      Step s { s with host := host, stack := [t], taken := s.taken ++ [some t] }
  | stop {host} (idle : s.stack = []) (loops : s.looping = true)
      (took : s.host.take? = some (.shutdown, host)) :
      Step s { s with host := host, looping := false, taken := s.taken ++ [none] }
  /-- A task on the primary thread calls for another, which is begun at once. -/
  | inline (inside : s.stack ≠ []) :
      Step s { s with stack := .inline s.calls :: s.stack, calls := s.calls + 1 }
  | finish {t outer} (inside : s.stack = t :: outer) (queued : t.isQueued = true) :
      Step s { s with host := s.host.perform t.job, stack := outer }
  | comeBack {number outer} (inside : s.stack = .inline number :: outer) :
      Step s { s.answer (.inline number) (.ok ()) with
        host := s.host.perform (Ticket.inline number).job
        stack := outer }
  /-- The primary thread gives up its end of the queue. -/
  | leave (stopped : s.looping = false) (held : s.host.isOpen = true) :
      Step s { s with host := s.host.close, dropped := s.host.queue.flatMap tasksOf }

abbrev Steps : State → State → Prop :=
  Relation.ReflTransGen Step

def Reachable (s : State) : Prop :=
  Steps start s

theorem tasksOf_requests (asks : List (Option Ticket)) :
    (asks.map request).flatMap tasksOf = asks.filterMap id := by
  induction asks with
  | nil => rfl
  | cons ask asks ih => cases ask <;> simp [request, tasksOf, Ticket.job, ih]

end Protocol

end AbilityScript
