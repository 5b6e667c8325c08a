import AbilityScript.Number.Binary
import AbilityScript.Number.Whole
import AbilityScript.Text.Ascii

/-!
Decimal numerals with a fraction and an exponent, and the binary number nearest to one. The text is
an optional sign, digits with at most one point among or around them, and an optional exponent;
`inf`, `infinity` and `nan` are numerals too, in either case.
-/
namespace AbilityScript.Number

-- Powers of whole numbers are the primitive ones, whichever others are in sight.
attribute [local instance (high)] instPowNat

/-- The number `digits · 10 ^ exponent`, with a sign of its own so that a negative zero is one. -/
structure Decimal where
  negative : Bool
  digits : Nat
  exponent : Int
  deriving DecidableEq, Repr

namespace Decimal

/-- The binary number nearest to a decimal one. A power of ten that by itself lies beyond the top of
the format, or under half of its unit, decides without being computed. -/
def toBinary (f : Format) (d : Decimal) : Binary f :=
  let places : Int := (Nat.toDigits 10 d.digits).length + d.exponent
  if d.digits == 0 then .signedZero d.negative
  else if (f.top : Int) < places then .infinite d.negative
  else if places + f.scale + 1 < 0 then .signedZero d.negative
  else if 0 ≤ d.exponent then
    .ofRatio d.negative (d.digits * 10 ^ d.exponent.toNat * 2 ^ f.scale) 1
  else .ofRatio d.negative (d.digits * 2 ^ f.scale) (10 ^ (-d.exponent).toNat)

end Decimal

inductive Numeral where
  | decimal (d : Decimal)
  | infinity (negative : Bool)
  | notANumber
  deriving DecidableEq, Repr

namespace Numeral

def sign : List Char → Bool × List Char
  | '+' :: cs => (false, cs)
  | '-' :: cs => (true, cs)
  | cs => (false, cs)

def exponent? : List Char → Option Int
  | [] => some 0
  | c :: cs => if c == 'e' || c == 'E' then whole? cs else none

def digitRuns (cs : List Char) : List Char × List Char × List Char :=
  let before := cs.takeWhile Char.isDigit
  match cs.dropWhile Char.isDigit with
  | '.' :: rest => (before, rest.takeWhile Char.isDigit, rest.dropWhile Char.isDigit)
  | rest => (before, [], rest)

def decimal? (negative : Bool) (cs : List Char) : Option Decimal :=
  let (before, after, rest) := digitRuns cs
  match natural? (before ++ after), exponent? rest with
  | some digits, some e => some ⟨negative, digits, e - after.length⟩
  | _, _ => none

def parse? (text : String) : Option Numeral :=
  let (negative, body) := sign text.toList
  let word := body.map Char.toLower
  if word == "inf".toList || word == "infinity".toList then some (.infinity negative)
  else if word == "nan".toList then some .notANumber
  else (decimal? negative body).map .decimal

def toBinary (f : Format) : Numeral → Binary f
  | decimal d => d.toBinary f
  | infinity negative => .infinite negative
  | notANumber => .nan

end Numeral

def Format.parse? (f : Format) (text : String) : Option (Binary f) :=
  ((Numeral.parse? text).map (Numeral.toBinary f)).filter Binary.isFinite

theorem Format.isFinite_of_parse? {f : Format} {text : String} {x : Binary f}
    (h : f.parse? text = some x) : x.isFinite = true := by
  simp only [Format.parse?, Option.filter_eq_some_iff] at h
  exact h.2

end AbilityScript.Number
