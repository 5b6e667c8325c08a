import AbilityScript.Schema
import AbilityScript.Trigger

namespace AbilityScript

inductive Section where
  | keywords
  | conditions
  deriving DecidableEq, Repr

namespace Section

def word : Section → String
  | keywords => "keyword"
  | conditions => "condition"

end Section

inductive LineFault where
  | malformedCall (line : String)
  | unknownFunction (kind : Section) (name : String)
  | argumentCount (function : String) (expected found : Nat)
  | invalidArgument (function : String) (error : ArgumentError)
  deriving DecidableEq, Repr

def LineFault.message : LineFault → String
  | malformedCall line => s!"malformed call '{line}', expected name(arg, ...)"
  | unknownFunction kind name => s!"unknown {kind.word} '{name}'"
  | argumentCount function expected found =>
    s!"'{function}' expects {expected} argument(s) but got {found}"
  | invalidArgument function error => s!"'{function}' {error.message}"

structure Diagnostic where
  ability : String
  kind : Section
  line : Nat
  fault : LineFault
  deriving DecidableEq, Repr

def Diagnostic.message (d : Diagnostic) : String :=
  s!"ability '{d.ability}', {d.kind.word} line {d.line}: {d.fault.message}"

inductive CompileError where
  | unknownTrigger (ability trigger : String)
  | missingTimer (ability : String)
  deriving DecidableEq, Repr

namespace CompileError

def ability : CompileError → String
  | unknownTrigger ability _ => ability
  | missingTimer ability => ability

def message : CompileError → String
  | unknownTrigger ability trigger => s!"Unknown trigger '{trigger}' on ability '{ability}'"
  | missingTimer ability =>
    s!"Ability '{ability}' uses the timer trigger without a positive timer period"

end CompileError

structure RegistryError where
  kind : Section
  name : String
  deriving DecidableEq, Repr

def RegistryError.message (e : RegistryError) : String :=
  match e.kind with
  | .keywords => s!"Keyword '{e.name}' already exists"
  | .conditions => s!"Condition '{e.name}' already exists"

inductive Refusal where
  | triggerMismatch (ability : String) (expected actual : Trigger)
  | missingCapability (ability : String) (trigger : Trigger) (missing : Capabilities)
  | unsupportedTargeter (ability : String) (trigger : Trigger) (unsupported : Capabilities)
  | conditionFailed (ability condition : String)
  | abilityNotFound (ability : String)
  deriving DecidableEq, Repr

def Refusal.message : Refusal → String
  | triggerMismatch ability expected actual =>
    s!"Ability '{ability}' is bound to '{expected.identifier}' but was fired by " ++
      s!"'{actual.identifier}'"
  | missingCapability ability trigger missing =>
    s!"Context for ability '{ability}' lacks {missing.text} declared by trigger " ++
      s!"'{trigger.identifier}'"
  | unsupportedTargeter ability trigger unsupported =>
    s!"Ability '{ability}' targets {unsupported.text}, which trigger " ++
      s!"'{trigger.identifier}' cannot supply"
  | conditionFailed ability condition => s!"Condition '{condition}' failed for ability '{ability}'"
  | abilityNotFound ability => s!"Ability '{ability}' not found"

end AbilityScript
