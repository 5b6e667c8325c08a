import AbilityScript.Number.Decimal
import AbilityScript.Number.Shortest
import AbilityScript.Scene.Potion
import AbilityScript.Scene.World
import AbilityScript.Targeter
import AbilityScript.Text.Quoted

namespace AbilityScript

open Text Number

/-- A named list of members with their spellings. Members may share a spelling. -/
structure Enumeration (α : Type) where
  name : String
  members : List α
  spelling : α → String

structure EnumValue where
  enumeration : String
  index : Nat
  name : String
  deriving DecidableEq, Repr

namespace Enumeration

variable {α : Type}

/-- The value for a member: its index is that of the first member with the same spelling. -/
def value (e : Enumeration α) (member : α) : EnumValue where
  enumeration := e.name
  index := (e.members.findIdx? fun m => e.spelling m == e.spelling member).getD 0
  name := e.spelling member

def parse? (e : Enumeration α) (text : String) : Option EnumValue :=
  (e.members.find? fun m => sameLetters (e.spelling m) text).map e.value

def read? (e : Enumeration α) (v : EnumValue) : Option α :=
  if v.enumeration == e.name then e.members[v.index]? else none

def spellings (e : Enumeration α) : Enumeration String where
  name := e.name
  members := e.members.map e.spelling
  spelling := id

end Enumeration

def PotionKind.enumeration : Enumeration PotionKind where
  name := "potion effect type"
  members := PotionKind.all
  spelling := PotionKind.name

def TimeOfDay.enumeration : Enumeration TimeOfDay where
  name := "time of day"
  members := TimeOfDay.all
  spelling := TimeOfDay.name

inductive Value where
  | whole (width : Width) (n : Whole width)
  | float (x : Binary32)
  | double (x : Binary64)
  | boolean (b : Bool)
  | char (c : Char)
  | string (s : String)
  | targeter (t : Targeter)
  | member (v : EnumValue)
  deriving DecidableEq

namespace Value

def asDouble? : Value → Option Binary64
  | whole _ n => some (.ofInt n.val)
  | float x => some x.convert
  | double x => some x
  | _ => none

def asWhole? : Value → Option Int
  | whole _ n => some n.val
  | _ => none

def asBoolean? : Value → Option Bool
  | boolean b => some b
  | _ => none

def asChar? : Value → Option Char
  | char c => some c
  | _ => none

def asString? : Value → Option String
  | string s => some s
  | _ => none

def asTargeter? : Value → Option Targeter
  | targeter t => some t
  | _ => none

def asMember? {α : Type} (e : Enumeration α) : Value → Option α
  | member v => e.read? v
  | _ => none

/-- Two values are the same when they have one kind and equal worth; floating-point numbers are
compared as numbers. -/
def same : Value → Value → Bool
  | whole v m, whole w n => v == w && m.val == n.val
  | float x, float y => x.same y
  | double x, double y => x.same y
  | boolean a, boolean b => a == b
  | char a, char b => a == b
  | string a, string b => a == b
  | targeter a, targeter b => a == b
  | member a, member b => a == b
  | _, _ => false

def describe : Value → String
  | whole .byte n => s!"Byte({n.val})"
  | whole .short n => s!"Short({n.val})"
  | whole .integer n => s!"Integer({n.val})"
  | whole .long n => s!"Long({n.val})"
  | float x => s!"Float({x.text})"
  | double x => s!"Double({x.text})"
  | boolean b => s!"Boolean({b})"
  | char c => s!"Char({quotedChar c})"
  | string s => s!"String({quoted s})"
  | targeter .player => "Targeter(Player)"
  | targeter .entity => "Targeter(Entity)"
  | targeter .block => "Targeter(Block)"
  | member v =>
    "Enum(EnumValue \x7b enumeration: " ++ quoted v.enumeration ++ ", index: " ++
      toString v.index ++ ", name: " ++ quoted v.name ++ " \x7d)"

end Value

inductive PrimitiveKind where
  | whole (width : Width)
  | float
  | double
  | boolean
  | char
  | string
  deriving DecidableEq, Repr

def isFormatCode (c : Char) : Bool :=
  isHexDigit c || ['k', 'l', 'm', 'n', 'o', 'r'].contains c.toLower

def translateFormatCodes : List Char → List Char
  | [] => []
  | [c] => [c]
  | c :: next :: rest =>
    (if c == '&' && isFormatCode next then '§' else c) :: translateFormatCodes (next :: rest)

namespace PrimitiveKind

def name : PrimitiveKind → String
  | whole w => w.name
  | float => "float"
  | double => "double"
  | boolean => "boolean"
  | char => "char"
  | string => "string"

def describe : PrimitiveKind → String
  | whole .byte => "Byte"
  | whole .short => "Short"
  | whole .integer => "Integer"
  | whole .long => "Long"
  | float => "Float"
  | double => "Double"
  | boolean => "Boolean"
  | char => "Char"
  | string => "String"

def parse? : PrimitiveKind → String → Option Value
  | whole w, text => (w.parse? text).map (.whole w)
  | float, text => (single.parse? text).map .float
  | double, text => (Number.double.parse? text).map .double
  | boolean, text =>
    if sameLetters text "true" then some (.boolean true)
    else if sameLetters text "false" then some (.boolean false)
    else none
  | char, text =>
    match text.toList with
    | [c] => some (.char c)
    | _ => none
  | string, text => some (.string (String.ofList (translateFormatCodes text.toList)))

end PrimitiveKind

end AbilityScript
