namespace AbilityScript.Number

-- Powers of whole numbers are the primitive ones, whichever others are in sight.
attribute [local instance (high)] instPowNat

inductive Width where
  | byte
  | short
  | integer
  | long
  deriving DecidableEq, Repr

namespace Width

def bits : Width → Nat
  | byte => 8
  | short => 16
  | integer => 32
  | long => 64

def name : Width → String
  | byte => "byte"
  | short => "short"
  | integer => "integer"
  | long => "long"

def Holds (w : Width) (n : Int) : Prop :=
  -(2 ^ (w.bits - 1) : Int) ≤ n ∧ n < (2 ^ (w.bits - 1) : Int)

instance (w : Width) (n : Int) : Decidable (w.Holds n) :=
  inferInstanceAs (Decidable (_ ∧ _))

/-- A wider width holds what a narrower one does. -/
theorem Holds.of_bits_le {v w : Width} {n : Int} (h : v.Holds n) (hw : v.bits ≤ w.bits) :
    w.Holds n := by
  cases v <;> cases w <;> simp [Holds, bits] at * <;> omega

end Width

abbrev Whole (w : Width) : Type := { n : Int // w.Holds n }

def digitsValue (cs : List Char) : Nat :=
  cs.foldl (fun n c => 10 * n + (c.toNat - '0'.toNat)) 0

def digits? (cs : List Char) : Option Nat :=
  if cs.all Char.isDigit then some (digitsValue cs) else none

def natural? : List Char → Option Nat
  | [] => none
  | c :: cs => digits? (c :: cs)

def whole? : List Char → Option Int
  | '+' :: cs => (natural? cs).map Int.ofNat
  | '-' :: cs => (natural? cs).map fun n => -(n : Int)
  | cs => (natural? cs).map Int.ofNat

def Width.parse? (w : Width) (text : String) : Option (Whole w) :=
  (whole? text.toList).bind fun n => if h : w.Holds n then some ⟨n, h⟩ else none

/-- A text is read as the whole number that it denotes, whatever the width. -/
theorem Width.whole?_of_parse? {w : Width} {text : String} {n : Whole w}
    (h : w.parse? text = some n) : whole? text.toList = some n.val := by
  simp only [Width.parse?, Option.bind_eq_some_iff] at h
  obtain ⟨m, hm, h⟩ := h
  split at h
  · cases h
    exact hm
  · cases h

end AbilityScript.Number
