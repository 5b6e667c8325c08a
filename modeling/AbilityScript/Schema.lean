import AbilityScript.Value

namespace AbilityScript

open Text

inductive Schema where
  /-- A primitive, perhaps one that a predicate restricts, under a label or its kind's name. -/
  | primitive (kind : PrimitiveKind) (accepts : Option (Value → Bool)) (label : Option String)
  | choice (members : Enumeration String) (label : Option String)
  | targeter (allowed : Capabilities)
  | values (kind : PrimitiveKind)
  | manual (label : String) (read : String → Option Value)

inductive ArgumentFault where
  | invalid
  | rejected
  deriving DecidableEq, Repr

structure ArgumentError where
  fault : ArgumentFault
  position : Nat
  raw : String
  expected : String
  deriving DecidableEq, Repr

def ArgumentError.message (e : ArgumentError) : String :=
  match e.fault with
  | .invalid => s!"argument {e.position}: '{e.raw}' is not a valid {e.expected}"
  | .rejected => s!"argument {e.position}: {e.expected} '{e.raw}' is out of range"

namespace Schema

def expected : Schema → String
  | primitive kind _ label => label.getD kind.name
  | choice members label => label.getD members.name
  | targeter allowed =>
    "targeter (" ++ ", ".intercalate (allowed.toList.map Targeter.identifier) ++ ")"
  | values kind => kind.name
  | manual label _ => label

def read (s : Schema) (raw : String) : Except ArgumentFault Value :=
  match s with
  | primitive kind accepts _ =>
    match kind.parse? raw with
    | none => .error .invalid
    | some v => if accepts.all (· v) then .ok v else .error .rejected
  | choice members _ => ((members.parse? raw).map Value.member).elim (.error .invalid) .ok
  | targeter allowed =>
    (((Targeter.ofText? raw).filter allowed.has).map Value.targeter).elim (.error .invalid) .ok
  | values kind => (kind.parse? raw).elim (.error .invalid) .ok
  | manual _ read => (read raw).elim (.error .invalid) .ok

def resolve (s : Schema) (raw : String) (position : Nat) : Except ArgumentError Value :=
  (s.read raw).mapError fun fault => ⟨fault, position, raw, s.expected⟩

def describe : Schema → String
  | primitive kind accepts label =>
    "Primitive \x7b kind: " ++ kind.describe ++ ", validated: " ++ toString accepts.isSome ++
      ", label: " ++ describeLabel label ++ " \x7d"
  | choice members label =>
    "Enum \x7b enumeration: " ++ quoted members.name ++ ", label: " ++ describeLabel label ++
      " \x7d"
  | targeter allowed => "Targeter \x7b allowed: " ++ allowed.text ++ " \x7d"
  | values kind => "Values \x7b kind: " ++ kind.describe ++ " \x7d"
  | manual label _ => "Manual \x7b label: " ++ quoted label ++ " \x7d"
where
  describeLabel : Option String → String
    | none => "None"
    | some label => "Some(" ++ quoted label ++ ")"

end Schema

end AbilityScript
