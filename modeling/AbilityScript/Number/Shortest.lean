import AbilityScript.Number.Binary

namespace AbilityScript.Number

-- Powers of whole numbers are the primitive ones, whichever others are in sight.
attribute [local instance (high)] instPowNat

/-- Significant digits, the first of them nonzero, and the place of the point: the worth is
`0.digits · 10 ^ point`. -/
structure Digits where
  digits : List Char
  point : Int
  deriving DecidableEq, Repr

namespace Format

/-- Whether the decimal number `n · 10 ^ e` rounds to the magnitude `units`. It is compared, in
quarters of a unit, with the midpoints to the neighbouring magnitudes; a midpoint itself rounds to
the even neighbour. -/
def readsBack (f : Format) (units : Nat) (n : Nat) (e : Int) : Bool :=
  let step := 2 ^ f.lastBit units
  let isPower := f.lastBit units != 0 && units == 2 ^ (f.precision - 1) * step
  let below := if isPower then step else 2 * step
  let low := 4 * units - below
  let high := 4 * units + 2 * step
  let even := units / step % 2 == 0
  let num := 4 * n * 10 ^ e.toNat * 2 ^ f.scale
  let den := 10 ^ (-e).toNat
  if even then low * den ≤ num && num ≤ high * den else low * den < num && num < high * den

/-- Of the two multiples of `10 ^ e` around the magnitude `units`, the nearer one that reads back,
and the greater if both do and are equally near. -/
def multiple? (f : Format) (units : Nat) (e : Int) : Option Nat :=
  let num := units * 10 ^ (-e).toNat
  let den := 2 ^ f.scale * 10 ^ e.toNat
  let low := num / den
  let byNearness := if 2 * (num % den) < den then [low, low + 1] else [low + 1, low]
  byNearness.find? fun n => f.readsBack units n e

def decimalPlaces (f : Format) (units : Nat) : Int :=
  let whole := units / 2 ^ f.scale
  if whole != 0 then (Nat.toDigits 10 whole).length
  else -((Nat.toDigits 10 ((2 ^ f.scale - 1) / units)).length - 1 : Int)

def shortestFrom (f : Format) (units : Nat) (e : Int) : Nat → Nat × Int
  | 0 => (0, e)
  | fuel + 1 =>
    match f.multiple? units e with
    | some n => (n, e)
    | none => f.shortestFrom units (e - 1) fuel

def shortestDigits (f : Format) (units : Nat) : Digits :=
  let (n, e) := f.shortestFrom units (f.decimalPlaces units) 20
  let written := Nat.toDigits 10 n
  let trailing := (written.reverse.takeWhile (· == '0')).length
  ⟨written.take (written.length - trailing), written.length + e⟩

end Format

namespace Digits

def positional (d : Digits) : String :=
  let n := d.digits.length
  if d.point ≤ 0 then
    "0." ++ String.ofList (List.replicate (-d.point).toNat '0' ++ d.digits)
  else
    let p := d.point.toNat
    if n ≤ p then String.ofList (d.digits ++ List.replicate (p - n) '0') ++ ".0"
    else String.ofList (d.digits.take p) ++ "." ++ String.ofList (d.digits.drop p)

def scientific (d : Digits) : String :=
  let tail := d.digits.drop 1
  let point := if tail.isEmpty then "" else "." ++ String.ofList tail
  String.ofList (d.digits.take 1) ++ point ++ "e" ++ toString (d.point - 1)

end Digits

namespace Binary

variable {f : Format}

/-- The number in its shortest digits, positional from one ten-thousandth up to sixteen digits
before the point. -/
def text : Binary f → String
  | nan => "NaN"
  | infinite negative => if negative then "-inf" else "inf"
  | finite negative units _ =>
    let d := f.shortestDigits units
    let body :=
      if units == 0 then "0.0"
      else if -3 ≤ d.point && d.point ≤ 16 then d.positional
      else d.scientific
    if negative then "-" ++ body else body

end Binary

end AbilityScript.Number
