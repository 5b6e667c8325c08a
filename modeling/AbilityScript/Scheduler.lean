import AbilityScript.Simulation

/-!
Schedulers: where and when a host runs the work of an engine. A scheduler is described by its
answers; what it does to a simulation follows from them.
-/
namespace AbilityScript

/-- The answers of a scheduler. Questions, handovers and pauses are numbered from zero over a whole
simulation. -/
structure Scheduler where
  onPrimary : Nat → Bool
  /-- Whether work handed over is run, as it should be, before the handover returns; or never. -/
  accepts : Nat → Bool
  /-- What the caller is told when work handed over is not run, if anything. -/
  lossReason? : Option String
  /-- Which of the waiting pieces of work run at a pause, one after the other, each by its place
  among those that still wait. -/
  picks : Nat → List Nat
  callerThread : Thread
  primaryThread : Thread
  workerThread : Thread

namespace Scheduler

def inline : Scheduler where
  onPrimary := fun _ => true
  accepts := fun _ => true
  lossReason? := none
  picks := fun _ => [0]
  callerThread := .caller
  primaryThread := .caller
  workerThread := .caller

end Scheduler

namespace Simulation

def ask (sched : Scheduler) (s : Simulation) : Bool × Simulation :=
  let answer := sched.onPrimary s.questions
  (answer, { s with questions := s.questions + 1 }.record (.asked answer))

def handOver (sched : Scheduler) (task : Task) (s : Simulation) : Simulation :=
  let handed := { s with handovers := s.handovers + 1 }.record .handedOver
  if sched.accepts s.handovers then handed.runTask sched.primaryThread task
  else
    match sched.lossReason? with
    | some reason => handed.note sched.callerThread (.lostTask reason)
    | none => handed

def spawn (task : Task) (s : Simulation) : Simulation :=
  { s with pending := s.pending ++ [task] }.record .spawned

def runPending (sched : Scheduler) (s : Simulation) (i : Nat) : Simulation :=
  match s.pending[i]? with
  | some task => { s with pending := s.pending.eraseIdx i }.runTask sched.workerThread task
  | none => s

def pause (sched : Scheduler) (s : Simulation) : Simulation :=
  (sched.picks s.pauses).foldl (runPending sched) { s with pauses := s.pauses + 1 }

def flush (sched : Scheduler) (s : Simulation) : Simulation :=
  s.pending.foldl (fun s task => s.runTask sched.workerThread task) { s with pending := [] }

end Simulation

end AbilityScript
