import AbilityScript.Engine
import Mathlib.Data.List.Basic

namespace AbilityScript

variable {sched : Scheduler} {context : Context}

def Ability.synchronous (calls : List (KeywordCall Ability)) : List (KeywordCall Ability) :=
  calls.filter fun call => !call.keyword.isAsync

def Ability.asynchronous (calls : List (KeywordCall Ability)) : List (KeywordCall Ability) :=
  calls.filter fun call => call.keyword.isAsync

def Execution.tally (done : Execution) (calls : List (KeywordCall Ability)) : Execution where
  ability := done.ability
  completed := done.completed + (Ability.synchronous calls).length
  dispatched := done.dispatched + (Ability.asynchronous calls).length

/-- What holds from before to after each pick of waiting work holds so of a pause. -/
theorem Simulation.pause_of_picks {P : Simulation → Simulation → Prop} (hrefl : ∀ s, P s s)
    (htrans : ∀ {s s' s''}, P s s' → P s' s'' → P s s'')
    (hpick : ∀ s i, P s (s.runPending sched i)) (s : Simulation) :
    P { s with pauses := s.pauses + 1 } (s.pause sched) := by
  have hpicks : ∀ (picks : List Nat) (t : Simulation), P t (picks.foldl (runPending sched) t) := by
    intro picks
    induction picks with
    | nil => exact hrefl
    | cons i picks ih =>
      intro t
      exact htrans (hpick t i) (ih (t.runPending sched i))
  exact hpicks (sched.picks s.pauses) { s with pauses := s.pauses + 1 }

namespace Engine

def afterKeyword (sched : Scheduler) (context : Context) (s : Simulation)
    (call : KeywordCall Ability) : Simulation :=
  if call.keyword.isAsync then s.spawn (.call call context)
  else if sched.onPrimary s.questions then
    (s.ask sched).2.runKeyword sched.callerThread call context
  else (s.ask sched).2.handOver sched (.call call context)

theorem dispatchKeyword_eq (call : KeywordCall Ability) (done : Execution) (s : Simulation) :
    dispatchKeyword sched context call done s =
      (done.tally [call], afterKeyword sched context s call) := by
  by_cases hasync : call.keyword.isAsync = true
  · have hcounts : done.tally [call] = { done with dispatched := done.dispatched + 1 } := by
      simp [Execution.tally, Ability.synchronous, Ability.asynchronous, hasync]
    rw [dispatchKeyword, if_pos hasync, hcounts, afterKeyword, if_pos hasync]
  · have hcounts : done.tally [call] = { done with completed := done.completed + 1 } := by
      simp [Execution.tally, Ability.synchronous, Ability.asynchronous, hasync]
    rw [dispatchKeyword, if_neg hasync, hcounts, afterKeyword, if_neg hasync]
    rfl

theorem tally_tally (done : Execution) (calls later : List (KeywordCall Ability)) :
    (done.tally calls).tally later = done.tally (calls ++ later) := by
  simp only [Execution.tally, Ability.synchronous, Ability.asynchronous, List.filter_append,
    List.length_append, Nat.add_assoc]

theorem synchronous_cons (c : KeywordCall Ability) (calls : List (KeywordCall Ability)) :
    Ability.synchronous (c :: calls) = Ability.synchronous [c] ++ Ability.synchronous calls := by
  rw [Ability.synchronous, Ability.synchronous, Ability.synchronous, ← List.filter_append,
    List.singleton_append]

theorem asynchronous_cons (c : KeywordCall Ability) (calls : List (KeywordCall Ability)) :
    Ability.asynchronous (c :: calls) = Ability.asynchronous [c] ++ Ability.asynchronous calls := by
  rw [Ability.asynchronous, Ability.asynchronous, Ability.asynchronous, ← List.filter_append,
    List.singleton_append]

/-- Of keywords that are tallied from the start, each is counted once. -/
theorem completed_add_dispatched_tally (name : String) (calls : List (KeywordCall Ability)) :
    ((⟨name, 0, 0⟩ : Execution).tally calls).completed +
      ((⟨name, 0, 0⟩ : Execution).tally calls).dispatched = calls.length := by
  simp only [Execution.tally, Ability.synchronous, Ability.asynchronous, Nat.zero_add]
  have hsplit := List.length_eq_length_filter_add (l := calls) fun c => c.keyword.isAsync
  omega

/-- A dispatch is one step for each keyword, and its report a tally of them. -/
theorem dispatchAll_eq (calls : List (KeywordCall Ability)) (done : Execution) (s : Simulation) :
    dispatchAll sched context calls done s =
      (done.tally calls,
        calls.foldl (fun s call => (afterKeyword sched context s call).pause sched) s) := by
  induction calls generalizing done s with
  | nil => rfl
  | cons call calls ih =>
    simp only [dispatchAll, dispatchKeyword_eq, ih, tally_tally, List.foldl_cons]
    rfl

end Engine

end AbilityScript
