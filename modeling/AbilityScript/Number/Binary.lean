/-!
Binary floating-point numbers held as what they are: a sign and a whole number of units, the unit
being the smallest positive number of the format. Every operation is exact arithmetic on whole
numbers followed by one rounding, so its laws are laws of whole numbers. Main statement: what
rounding produces fits the format.
-/
namespace AbilityScript.Number

-- Powers of whole numbers are the primitive ones, whichever others are in sight.
attribute [local instance (high)] instPowNat

/-- A binary format: how many significant bits a number has, the power `scale` for which
`2 ^ -scale` is the unit, and the power `top` of two, in units, that no finite number reaches. -/
structure Format where
  precision : Nat
  scale : Nat
  top : Nat
  precision_pos : 0 < precision := by decide
  deriving DecidableEq, Repr

def double : Format where
  precision := 53
  scale := 1074
  top := 2098

def single : Format where
  precision := 24
  scale := 149
  top := 277

namespace Format

def lastBit (f : Format) (units : Nat) : Nat :=
  units.log2 + 1 - f.precision

/-- The magnitudes, in units, of the finite numbers: below the top, and with no bit below the last
significant one. -/
def Fits (f : Format) (units : Nat) : Prop :=
  units < 2 ^ f.top ∧ 2 ^ f.lastBit units ∣ units

instance (f : Format) (units : Nat) : Decidable (f.Fits units) :=
  inferInstanceAs (Decidable (_ ∧ _))

theorem fits_zero (f : Format) : f.Fits 0 :=
  ⟨Nat.two_pow_pos _, Nat.dvd_zero _⟩

end Format

/-- The whole number nearest to `num / den`, an exact half going to the even one. -/
def nearestEven (num den : Nat) : Nat :=
  let low := num / den
  let rest := num % den
  if 2 * rest < den then low
  else if den < 2 * rest then low + 1
  else low + low % 2

def Format.round (f : Format) (num den : Nat) : Nat :=
  let bit := f.lastBit (num / den)
  nearestEven num (den * 2 ^ bit) * 2 ^ bit

theorem nearestEven_le_succ (num den : Nat) : nearestEven num den ≤ num / den + 1 := by
  unfold nearestEven
  dsimp only
  split
  · omega
  · split <;> omega

/-- Rounding leaves no bit below the last significant one. -/
theorem Format.lastBit_round_dvd (f : Format) (num den : Nat) :
    2 ^ f.lastBit (f.round num den) ∣ f.round num den := by
  let bit := f.lastBit (num / den)
  let k := nearestEven num (den * 2 ^ bit)
  change 2 ^ f.lastBit (k * 2 ^ bit) ∣ k * 2 ^ bit
  have hp := f.precision_pos
  have hq : num / den < 2 ^ (f.precision + bit) := by
    have h1 : num / den < 2 ^ ((num / den).log2 + 1) := Nat.lt_log2_self
    have h2 : (num / den).log2 + 1 ≤ f.precision + bit := by
      simp only [bit, Format.lastBit]
      omega
    exact Nat.lt_of_lt_of_le h1 (Nat.pow_le_pow_right (by decide) h2)
  have hk : k ≤ 2 ^ f.precision := by
    have h1 : k ≤ num / (den * 2 ^ bit) + 1 := nearestEven_le_succ _ _
    have h2 : num / (den * 2 ^ bit) < 2 ^ f.precision := by
      rw [← Nat.div_div_eq_div_mul]
      refine Nat.div_lt_of_lt_mul ?_
      rwa [← Nat.pow_add, Nat.add_comm]
    omega
  by_cases hz : k * 2 ^ bit = 0
  · rw [hz]
    exact Nat.dvd_zero _
  by_cases htop : k = 2 ^ f.precision
  · rw [htop, ← Nat.pow_add]
    refine Nat.pow_dvd_pow 2 ?_
    simp only [Format.lastBit, Nat.log2_two_pow]
    omega
  · have hlt : k * 2 ^ bit < 2 ^ (f.precision + bit) := by
      rw [Nat.pow_add]
      exact Nat.mul_lt_mul_of_pos_right (by omega) (Nat.two_pow_pos _)
    have hlog : (k * 2 ^ bit).log2 < f.precision + bit := (Nat.log2_lt hz).2 hlt
    refine Nat.dvd_trans (Nat.pow_dvd_pow 2 ?_) (Nat.dvd_mul_left _ _)
    simp only [Format.lastBit]
    omega

inductive Binary (f : Format) where
  | nan
  | infinite (negative : Bool)
  | finite (negative : Bool) (units : Nat) (fits : f.Fits units)
  deriving DecidableEq

abbrev Binary64 := Binary double

abbrev Binary32 := Binary single

namespace Binary

variable {f g : Format}

def signedZero (negative : Bool) : Binary f :=
  .finite negative 0 f.fits_zero

def zero : Binary f :=
  signedZero false

instance : Inhabited (Binary f) := ⟨zero⟩

def ofRatio (negative : Bool) (num den : Nat) : Binary f :=
  if h : f.round num den < 2 ^ f.top then
    .finite negative (f.round num den) ⟨h, f.lastBit_round_dvd num den⟩
  else .infinite negative

def isNaN : Binary f → Bool
  | nan => true
  | _ => false

def isFinite : Binary f → Bool
  | finite .. => true
  | _ => false

/-- The place of a number in the order of the numbers: its signed count of units, the infinities
lying at the top and its negative. What is not a number has no place. -/
def rank : Binary f → Option Int
  | nan => none
  | infinite negative => some (if negative then -(2 ^ f.top : Nat) else (2 ^ f.top : Nat))
  | finite negative units _ => some (if negative then -(units : Int) else units)

def lt (x y : Binary f) : Bool :=
  match x.rank, y.rank with
  | some a, some b => a < b
  | _, _ => false

def le (x y : Binary f) : Bool :=
  match x.rank, y.rank with
  | some a, some b => a ≤ b
  | _, _ => false

/-- Of equal worth: the two zeros are, and what is not a number is not even equal to itself. -/
def same (x y : Binary f) : Bool :=
  match x.rank, y.rank with
  | some a, some b => a == b
  | _, _ => false

/-- The greater of two numbers; of two sides of which one is not a number, the other. -/
def max (x y : Binary f) : Binary f :=
  if x.isNaN then y else if x.lt y then y else x

def min (x y : Binary f) : Binary f :=
  if x.isNaN then y else if y.lt x then y else x

def clamp (x low high : Binary f) : Binary f :=
  if x.lt low then low else if high.lt x then high else x

def ofUnits (units : Int) : Binary f :=
  ofRatio (units < 0) units.natAbs 1

def ofInt (n : Int) : Binary f :=
  ofUnits (n * 2 ^ f.scale)

def neg : Binary f → Binary f
  | nan => nan
  | infinite negative => infinite !negative
  | finite negative units h => finite (!negative) units h

/-- The sum. Opposite infinities have none; an exact zero is positive unless both sides are
negative zeros. -/
def add : Binary f → Binary f → Binary f
  | nan, _ => nan
  | _, nan => nan
  | infinite a, infinite b => if a == b then infinite a else nan
  | infinite a, finite .. => infinite a
  | finite .., infinite b => infinite b
  | finite a m _, finite b n _ =>
    let sum : Int := (if a then -(m : Int) else m) + (if b then -(n : Int) else n)
    if sum == 0 then signedZero (a && b) else ofUnits sum

def sub (x y : Binary f) : Binary f :=
  x.add y.neg

def mul : Binary f → Binary f → Binary f
  | nan, _ => nan
  | _, nan => nan
  | infinite a, infinite b => infinite (a != b)
  | infinite a, finite b n _ => if n == 0 then nan else infinite (a != b)
  | finite a m _, infinite b => if m == 0 then nan else infinite (a != b)
  | finite a m _, finite b n _ => ofRatio (a != b) (m * n) (2 ^ f.scale)

def div : Binary f → Binary f → Binary f
  | nan, _ => nan
  | _, nan => nan
  | infinite _, infinite _ => nan
  | infinite a, finite b _ _ => infinite (a != b)
  | finite a _ _, infinite b => signedZero (a != b)
  | finite a m _, finite b n _ =>
    if n == 0 then (if m == 0 then nan else infinite (a != b))
    else ofRatio (a != b) (m * 2 ^ f.scale) n

def convert : Binary f → Binary g
  | nan => nan
  | infinite negative => infinite negative
  | finite negative units _ => ofRatio negative (units * 2 ^ g.scale) (2 ^ f.scale)

instance : Add (Binary f) := ⟨add⟩
instance : Sub (Binary f) := ⟨sub⟩
instance : Mul (Binary f) := ⟨mul⟩
instance : Div (Binary f) := ⟨div⟩
instance (n : Nat) : OfNat (Binary f) n := ⟨ofInt n⟩

def toBits : Binary f → Nat
  | nan => (f.top - f.precision + 2) * 2 ^ (f.precision - 1) + 2 ^ (f.precision - 2)
  | infinite negative =>
    (if negative then (f.top - f.precision + 3) * 2 ^ (f.precision - 1) else 0) +
      (f.top - f.precision + 2) * 2 ^ (f.precision - 1)
  | finite negative units _ =>
    let bit := f.lastBit units
    let sign := if negative then (f.top - f.precision + 3) * 2 ^ (f.precision - 1) else 0
    if units < 2 ^ (f.precision - 1) then sign + units
    else sign + bit * 2 ^ (f.precision - 1) + units / 2 ^ bit

end Binary

end AbilityScript.Number
