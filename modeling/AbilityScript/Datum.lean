import AbilityScript.Number.Binary

namespace AbilityScript

open Number

-- Powers of whole numbers are the primitive ones, whichever others are in sight.
attribute [local instance (high)] instPowNat

inductive Datum where
  | null
  | boolean (b : Bool)
  | whole (n : Int)
  | real (x : Binary64)
  | text (s : String)
  | time (s : String)
  | list (items : List Datum)
  | table (entries : List (String × Datum))

namespace Datum

def field? (entries : List (String × Datum)) (name : String) : Option Datum :=
  (entries.find? fun entry => entry.1 == name).map Prod.snd

/-- The fields of a record, each with what is given for it: by name in a table, where other names do
not count, or by place in a list, where items after the last field are a fault unless `surplus` lets
them pass. -/
def record? (surplus : Bool) (fields : List String) : Datum → Option (List (Option Datum))
  | table entries => some (fields.map (field? entries))
  | list items =>
    if surplus || items.length ≤ fields.length then some (fields.mapIdx fun i _ => items[i]?)
    else none
  | _ => none

def text? : Datum → Option String
  | text s => some s
  | _ => none

def boolean? : Datum → Option Bool
  | boolean b => some b
  | _ => none

def count? : Datum → Option Nat
  | whole n => if 0 ≤ n ∧ n < 2 ^ (64 : Nat) then some n.toNat else none
  | _ => none

def texts? : Datum → Option (List String)
  | list items => items.mapM text?
  | _ => none

def orElse {α : Type} (default : α) (read : Datum → Option α) : Option Datum → Option α
  | none => some default
  | some d => read d

def variant? {α : Type} (all : List α) (name : α → String) : Datum → Option α
  | text s => all.find? fun a => name a == s
  | table [(s, null)] => all.find? fun a => name a == s
  | _ => none

end Datum

end AbilityScript
