import AbilityScript.Scheduler

/-!
The threaded host: one primary thread that takes requests from a queue, first come first served,
until it is told to stop or a job of it panics; what is in the queue then is lost, and nothing more
can be put there. Beside it there are workers for asynchronous work.
-/
namespace AbilityScript

inductive HostError where
  | start (reason : String)
  | unavailable
  | channel
  deriving DecidableEq, Repr

def HostError.message : HostError → String
  | start reason => s!"Failed to start runtime: {reason}"
  | unavailable => "Primary thread is not running"
  | channel => "Primary thread dropped the response channel"

structure Job (ε : Type) where
  entries : List ε
  panics : Bool := false

def Job.around {ε : Type} (before : ε) (inner : Job ε) (after : ε) : Job ε where
  entries := before :: inner.entries ++ (if inner.panics then [] else [after])
  panics := inner.panics

inductive Request (ε : Type) where
  | run (job : Job ε)
  | shutdown

structure Host (ε : Type) where
  isOpen : Bool
  queue : List (Request ε)
  log : List ε

namespace Host

variable {ε : Type}

def new : Host ε := ⟨true, [], []⟩

def send (r : Request ε) (h : Host ε) : Except HostError (Host ε) :=
  if h.isOpen then .ok { h with queue := h.queue ++ [r] } else .error .unavailable

def take? (h : Host ε) : Option (Request ε × Host ε) :=
  match h.isOpen, h.queue with
  | true, r :: rest => some (r, { h with queue := rest })
  | _, _ => none

def close (h : Host ε) : Host ε := ⟨false, [], h.log⟩

def perform (job : Job ε) (h : Host ε) : Host ε :=
  let done := { h with log := h.log ++ job.entries }
  if job.panics then done.close else done

def receive (h : Host ε) : Host ε :=
  match h.take? with
  | some (.run job, h') => h'.perform job
  | some (.shutdown, h') => h'.close
  | none => h

def settle (h : Host ε) : Host ε :=
  h.queue.length.repeat receive h

def record (entry : ε) (h : Host ε) : Host ε :=
  { h with log := h.log ++ [entry] }

def submit (job : Job ε) (h : Host ε) : Except HostError Unit × Host ε :=
  match h.send (.run job) with
  | .ok h' => (.ok (), h')
  | .error e => (.error e, h)

/-- Sends a job from outside the primary thread and waits for it. The primary thread still takes
requests afterwards just if the job and all those before it were done to the end. -/
def runAndWait (job : Job ε) (h : Host ε) : Except HostError Unit × Host ε :=
  match h.send (.run job) with
  | .ok h' =>
    let settled := h'.settle
    (if settled.isOpen then .ok () else .error .channel, settled)
  | .error e => (.error e, h)

def shutdown (h : Host ε) : Host ε :=
  match h.send .shutdown with
  | .ok h' => h'
  | .error _ => h

def ticks (entry : Nat → ε) (first : Nat) : Nat → Host ε → Host ε
  | 0, h => h
  | count + 1, h =>
    match h.send (.run ⟨[entry first], false⟩) with
    | .ok h' => ticks entry (first + 1) count h'.settle
    | .error _ => h

/-- The scheduler that an engine finds on this host when it is called from outside the primary
thread: each handover waits for the primary thread, which does the work if it still takes requests.
If it does not, the work is lost, and the caller is told why. -/
def schedulerOutside (h : Host ε) : Scheduler where
  onPrimary := fun _ => false
  accepts := fun _ => h.isOpen
  lossReason? := some HostError.unavailable.message
  picks := fun _ => [0]
  callerThread := .caller
  primaryThread := .primary
  workerThread := .worker

def schedulerInside (h : Host ε) : Except HostError Scheduler :=
  if h.isOpen then
    .ok
      { onPrimary := fun _ => true
        accepts := fun _ => true
        lossReason? := none
        picks := fun _ => [0]
        callerThread := .primary
        primaryThread := .primary
        workerThread := .worker }
  else .error .unavailable

end Host

end AbilityScript
