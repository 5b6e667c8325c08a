import AbilityScript.Schema

namespace AbilityScript

open Number

structure Arguments where
  values : List Value
  deriving DecidableEq

namespace Arguments

def get? (a : Arguments) (i : Nat) : Option Value :=
  a.values[i]?

def size (a : Arguments) : Nat :=
  a.values.length

def targeter? (a : Arguments) (i : Nat) : Option Targeter :=
  (a.get? i).bind Value.asTargeter?

def double? (a : Arguments) (i : Nat) : Option Binary64 :=
  (a.get? i).bind Value.asDouble?

def whole? (a : Arguments) (i : Nat) : Option Int :=
  (a.get? i).bind Value.asWhole?

def boolean? (a : Arguments) (i : Nat) : Option Bool :=
  (a.get? i).bind Value.asBoolean?

def char? (a : Arguments) (i : Nat) : Option Char :=
  (a.get? i).bind Value.asChar?

def string? (a : Arguments) (i : Nat) : Option String :=
  (a.get? i).bind Value.asString?

def member? {α : Type} (a : Arguments) (e : Enumeration α) (i : Nat) : Option α :=
  (a.get? i).bind (Value.asMember? e)

def targeters (a : Arguments) : Capabilities :=
  .ofList (a.values.filterMap Value.asTargeter?)

def same (a b : Arguments) : Bool :=
  a.size == b.size && (a.values.zip b.values).all fun p => p.1.same p.2

def describe (a : Arguments) : String :=
  "Arguments(" ++ Text.bracketed (a.values.map Value.describe) ++ ")"

/-- Resolves each token against the schema at its place, counting places from `position`; the first
token that fails decides. Tokens and schemas beyond the shorter list do not count. -/
def resolveFrom (position : Nat) : List Schema → List String → Except ArgumentError (List Value)
  | s :: schemas, raw :: tokens =>
    match s.resolve raw position with
    | .error e => .error e
    | .ok v => (resolveFrom (position + 1) schemas tokens).map (v :: ·)
  | _, _ => .ok []

def resolve (schemas : List Schema) (tokens : List String) : Except ArgumentError Arguments :=
  (resolveFrom 0 schemas tokens).map Arguments.mk

end Arguments

end AbilityScript
