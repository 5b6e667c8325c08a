import AbilityScript.Engine
import AbilityScript.TimerTable

namespace AbilityScript

inductive Event where
  | interact (player : EntityId) (click : Click) (hand : Hand) (block : Option Block)
  | interactEntity (player entity : EntityId) (isRight : Bool)
  | damageDealt (player victim : EntityId)
  | damageTaken (player damager : EntityId)
  | consume (player : EntityId)
  | blockBreak (player : EntityId) (block : Block)
  | timer (player : EntityId)
  deriving DecidableEq

namespace Event

def trigger : Event → Trigger
  | interact _ click _ block =>
    match click.isRight, click.isBlock && block.isSome with
    | true, true => .rightClickBlock
    | true, false => .rightClick
    | false, true => .leftClickBlock
    | false, false => .leftClick
  | interactEntity _ _ isRight => if isRight then .rightClickEntity else .leftClickEntity
  | damageDealt .. => .damageDealt
  | damageTaken .. => .damageTaken
  | consume _ => .consumeItem
  | blockBreak .. => .blockBreak
  | timer _ => .timer

def player : Event → EntityId
  | interact p .. => p
  | interactEntity p .. => p
  | damageDealt p _ => p
  | damageTaken p _ => p
  | consume p => p
  | blockBreak p _ => p
  | timer p => p

def contextKind : Event → ContextKind
  | interact _ click hand (some block) =>
    if click.isBlock then .interactBlock click hand block else .interact click hand
  | interact _ click hand none => .interact click hand
  | interactEntity _ entity _ => .entity entity
  | damageDealt _ victim => .entity victim
  | damageTaken _ damager => .entity damager
  | consume _ => .base
  | blockBreak _ block => .block block
  | timer _ => .base

def context (e : Event) (ability : String) : Context :=
  ⟨ability, e.trigger, e.player, e.contextKind⟩

end Event

namespace Engine

def dispatch (e : Engine) (event : Event) (name : String) (s : Simulation) :
    Except Refusal Execution × Simulation :=
  match s.cache.set.get? name with
  | none => (.error (.abilityNotFound name), s)
  | some a =>
    if a.trigger = event.trigger then e.tryExecute a (event.context name) s
    else (.error (.triggerMismatch name a.trigger event.trigger), s)

/-- Runs the named timers in order, each as it is in force when its turn comes, and counts those
that were not refused. -/
def fireTimers (e : Engine) (player : EntityId) : List String → Simulation → Nat × Simulation
  | [], s => (0, s)
  | name :: rest, s =>
    match e.dispatch (.timer player) name s with
    | (.ok _, s') =>
      let (ran, s'') := e.fireTimers player rest s'
      (ran + 1, s'')
    | (.error refusal, s') =>
      e.fireTimers player rest (s'.note e.scheduler.callerThread (.timerSkipped name refusal))

def onTick (e : Engine) (timers : TimerTable) (tick : Nat) (player : EntityId) (s : Simulation) :
    Nat × Simulation :=
  e.fireTimers player (timers.due tick) s

end Engine

end AbilityScript
