import AbilityScript.Scheduler

/-!
The engine: it decides whether an ability may run in a context, tests its conditions, and has its
keywords run. The decision reads only the ability, the context and the strictness; a refusal comes
before any keyword has run.
-/
namespace AbilityScript

structure Execution where
  ability : String
  completed : Nat
  dispatched : Nat
  deriving DecidableEq, Repr

structure Engine where
  strict : Bool
  scheduler : Scheduler

namespace Engine

/-- The refusal of an ability in a context for want of a subject, if there is one. A lenient engine
asks for one of the subjects that the trigger promises; a strict one asks for all of them, and
refuses an ability that refers to others. -/
def incompatibility? (strict : Bool) (a : Ability) (supplied : Capabilities) : Option Refusal :=
  let declared := a.trigger.targeters
  if !supplied.intersects declared then some (.missingCapability a.name a.trigger declared)
  else if !strict then none
  else if !supplied.contains declared then
    some (.missingCapability a.name a.trigger (declared.diff supplied))
  else if !declared.contains a.targeters then
    some (.unsupportedTargeter a.name a.trigger (a.targeters.diff declared))
  else none

def failedCondition? (thread : Thread) (context : Context) (s : Simulation) :
    List (ConditionCall Ability) → Option String × Simulation
  | [] => (none, s)
  | call :: rest =>
    let (holds, s') := s.testCondition thread call context
    if holds then failedCondition? thread context s' rest else (some call.condition.name, s')

/-- Has one keyword run, and counts it: an asynchronous one is handed over, any other runs here if
this is the primary thread and there if it is not. -/
def dispatchKeyword (sched : Scheduler) (context : Context) (call : KeywordCall Ability)
    (done : Execution) (s : Simulation) : Execution × Simulation :=
  if call.keyword.isAsync then
    ({ done with dispatched := done.dispatched + 1 }, s.spawn (.call call context))
  else
    let (isPrimary, s') := s.ask sched
    ({ done with completed := done.completed + 1 },
      if isPrimary then s'.runKeyword sched.callerThread call context
      else s'.handOver sched (.call call context))

def dispatchAll (sched : Scheduler) (context : Context) :
    List (KeywordCall Ability) → Execution → Simulation → Execution × Simulation
  | [], done, s => (done, s)
  | call :: rest, done, s =>
    let (done', s') := dispatchKeyword sched context call done s
    dispatchAll sched context rest done' (s'.pause sched)

def run (e : Engine) (a : Ability) (context : Context) (s : Simulation) :
    Except Refusal Execution × Simulation :=
  match incompatibility? e.strict a context.capabilities with
  | some refusal => (.error refusal, s)
  | none =>
    match failedCondition? e.scheduler.callerThread context s a.conditions with
    | (some condition, s') => (.error (.conditionFailed a.name condition), s')
    | (none, s') =>
      let (done, s'') := dispatchAll e.scheduler context a.keywords ⟨a.name, 0, 0⟩ s'
      (.ok done,
        s''.note e.scheduler.callerThread
          (.executed done.ability done.completed done.dispatched))

def tryExecute (e : Engine) (a : Ability) (context : Context) (s : Simulation) :
    Except Refusal Execution × Simulation :=
  if context.trigger = a.trigger then e.run a context s
  else (.error (.triggerMismatch a.name a.trigger context.trigger), s)

def execute (e : Engine) (a : Ability) (context : Context) (s : Simulation) : Bool × Simulation :=
  match e.tryExecute a context s with
  | (.ok _, s') => (true, s')
  | (.error refusal, s') => (false, s'.note e.scheduler.callerThread (.refused refusal))

def executeByName (e : Engine) (name : String) (player : EntityId) (s : Simulation) :
    Except Refusal Execution × Simulation :=
  match s.cache.set.get? name with
  | none => (.error (.abilityNotFound name), s)
  | some a => e.run a ⟨name, .unbound, player, .base⟩ s

end Engine

end AbilityScript
