import AbilityScript.Diagnostic
import AbilityScript.Text.Quoted

namespace AbilityScript

inductive Level where
  | debug
  | info
  | warn
  deriving DecidableEq, Repr

def Level.name : Level → String
  | debug => "debug"
  | info => "info"
  | warn => "warn"

inductive Notice where
  | unknownTrigger (raw ability : String)
  | missingPeriod (ability : String)
  | ignoredPeriod (ability : String) (trigger : Trigger)
  | droppedLine (diagnostic : Diagnostic)
  | compiledAll (abilities rejected dropped : Nat)
  | registered (kind : Section) (name : String)
  | builtinsListed (keywords conditions : List String)
  | executed (ability : String) (completed dispatched : Nat)
  | refused (refusal : Refusal)
  | timerSkipped (ability : String) (refusal : Refusal)
  | reloaded (count : Nat)
  | lostTask (reason : String)
  | noTarget (targeter : Targeter) (function ability : String) (trigger : Trigger)
  | noLocation (targeter : Targeter) (ability : String)
  deriving DecidableEq, Repr

namespace Notice

def level : Notice → Level
  | unknownTrigger .. | missingPeriod _ | ignoredPeriod .. | droppedLine _ | lostTask _ => .warn
  | compiledAll .. | registered .. | reloaded _ => .info
  | builtinsListed .. | executed .. | refused _ | timerSkipped .. | noTarget .. | noLocation .. =>
    .debug

def text : Notice → String
  | unknownTrigger raw ability => s!"Unknown trigger '{raw}' on ability {ability}"
  | missingPeriod ability => s!"Timer ability {ability} has no positive timer period"
  | ignoredPeriod ability trigger =>
    s!"Ignoring timer period on ability {ability} with trigger {trigger.identifier}"
  | droppedLine diagnostic => s!"Error parsing {diagnostic.message}"
  | compiledAll abilities rejected dropped =>
    s!"Compiled {abilities} abilities ({rejected} rejected, {dropped} lines dropped)"
  | registered kind name => s!"Registered {kind.word}: {name}"
  | builtinsListed keywords conditions =>
    "Built-in keywords: " ++ Text.bracketed (keywords.map Text.quoted) ++ ", conditions: " ++
      Text.bracketed (conditions.map Text.quoted)
  | executed ability completed dispatched =>
    s!"Executed ability {ability} ({completed} inline, {dispatched} async)"
  | refused refusal => s!"Refused execution: {refusal.message}"
  | timerSkipped ability refusal => s!"Timer ability {ability} skipped: {refusal.message}"
  | reloaded count => s!"Reloaded ability cache: {count} abilities"
  | lostTask reason => s!"Dropped primary-thread task: {reason}"
  | noTarget targeter function ability trigger =>
    s!"No {targeter.identifier} available for {function} on ability {ability} " ++
      s!"({trigger.identifier})"
  | noLocation targeter ability =>
    s!"No {targeter.identifier} location for lightning on ability {ability}"

end Notice

end AbilityScript
