import AbilityScript.Proofs.Number.Sign
import Mathlib.Tactic.Ring

/-!
The order of binary numbers under rounding. Rounding never carries a quotient past a number of the
format, so a sum with a summand from zero on does not fall below the other summand, and a difference
does not rise above what it is taken from. Everything is said of ranks, which what is not a number
does not have.
-/
namespace AbilityScript.Number

variable {f : Format}

theorem nearestEven_le {num den k : Nat} (hden : 0 < den) (h : num ≤ k * den) :
    nearestEven num den ≤ k := by
  have hlow : num / den ≤ k := Nat.div_le_of_le_mul (by rwa [Nat.mul_comm])
  by_cases heq : num / den = k
  -- At the bound itself nothing is left over, so nothing is rounded up.
  · have hsplit : num = den * (num / den) + num % den := (Nat.div_add_mod num den).symm
    rw [heq, Nat.mul_comm] at hsplit
    have hrest : num % den = 0 := by omega
    have hexact : nearestEven num den = num / den := by
      unfold nearestEven
      simp only [hrest, Nat.mul_zero, hden, if_true]
    omega
  · have hnext := nearestEven_le_succ num den
    omega

namespace Format

theorem lastBit_mono (f : Format) {m n : Nat} (h : m ≤ n) : f.lastBit m ≤ f.lastBit n := by
  have hlog : m.log2 ≤ n.log2 := by
    rcases Nat.eq_zero_or_pos m with rfl | hpos
    · exact Nat.zero_le _
    · exact (Nat.le_log2 (by omega)).2 ((Nat.log2_self_le hpos.ne').trans h)
  simp only [lastBit]
  omega

theorem lt_two_pow_lastBit (f : Format) (m : Nat) : m < 2 ^ (f.precision + f.lastBit m) := by
  have hlog : m < 2 ^ (m.log2 + 1) := Nat.lt_log2_self
  refine lt_of_lt_of_le hlog (Nat.pow_le_pow_right (by decide) ?_)
  simp only [lastBit]
  omega

/-- What is at or below a magnitude of the format is not rounded to more. -/
theorem round_le {m num den : Nat} (hm : f.Fits m) (hden : 0 < den) (h : num ≤ m * den) :
    f.round num den ≤ m := by
  have hquotient : num / den ≤ m := Nat.div_le_of_le_mul (by rwa [Nat.mul_comm])
  have hdvd : 2 ^ f.lastBit (num / den) ∣ m :=
    dvd_trans (Nat.pow_dvd_pow 2 (f.lastBit_mono hquotient)) hm.2
  obtain ⟨k, hk⟩ := hdvd
  have hbound : num ≤ k * (den * 2 ^ f.lastBit (num / den)) := by
    calc num ≤ m * den := h
      _ = k * (den * 2 ^ f.lastBit (num / den)) := by rw [hk]; ring
  have hnear := nearestEven_le (Nat.mul_pos hden (Nat.two_pow_pos _)) hbound
  calc f.round num den
      = nearestEven num (den * 2 ^ f.lastBit (num / den)) * 2 ^ f.lastBit (num / den) := rfl
    _ ≤ k * 2 ^ f.lastBit (num / den) := Nat.mul_le_mul_right _ hnear
    _ = m := by rw [hk, Nat.mul_comm]

/-- What is at or above a magnitude of the format is not rounded to less. -/
theorem le_round {m num den : Nat} (hm : f.Fits m) (hden : 0 < den) (h : m * den ≤ num) :
    m ≤ f.round num den := by
  have hlow (k : Nat) (hk : k * (den * 2 ^ f.lastBit (num / den)) ≤ num) :
      k * 2 ^ f.lastBit (num / den) ≤ f.round num den := by
    have hdiv : k ≤ num / (den * 2 ^ f.lastBit (num / den)) :=
      (Nat.le_div_iff_mul_le (Nat.mul_pos hden (Nat.two_pow_pos _))).2 hk
    exact Nat.mul_le_mul_right _ (hdiv.trans (le_nearestEven _ _))
  by_cases hbit : f.lastBit (num / den) ≤ f.lastBit m
  · obtain ⟨k, hk⟩ : 2 ^ f.lastBit (num / den) ∣ m :=
      dvd_trans (Nat.pow_dvd_pow 2 hbit) hm.2
    have hbelow : k * (den * 2 ^ f.lastBit (num / den)) ≤ num := by
      calc k * (den * 2 ^ f.lastBit (num / den)) = m * den := by rw [hk]; ring
        _ ≤ num := h
    have hround := hlow k hbelow
    rwa [Nat.mul_comm, ← hk] at hround
  -- Otherwise the quotient has more binary places than the magnitude, and the power of two at its
  -- own leading place, which rounding keeps, already exceeds the magnitude.
  · have hprecision := f.precision_pos
    have hplaces : f.lastBit (num / den) = (num / den).log2 + 1 - f.precision := rfl
    have hne : num / den ≠ 0 := by
      intro hzero
      simp only [hzero, Nat.log2_zero] at hplaces hbit
      omega
    have hlog : (num / den).log2 = f.precision - 1 + f.lastBit (num / den) := by omega
    have hlead : 2 ^ (f.precision - 1) * 2 ^ f.lastBit (num / den) ≤ num / den := by
      rw [← pow_add, ← hlog]
      exact Nat.log2_self_le hne
    have hbelow : 2 ^ (f.precision - 1) * (den * 2 ^ f.lastBit (num / den)) ≤ num := by
      calc 2 ^ (f.precision - 1) * (den * 2 ^ f.lastBit (num / den))
          = 2 ^ (f.precision - 1) * 2 ^ f.lastBit (num / den) * den := by ring
        _ ≤ num / den * den := Nat.mul_le_mul_right den hlead
        _ ≤ num := Nat.div_mul_le_self num den
    have hmagnitude : m ≤ 2 ^ (f.precision - 1) * 2 ^ f.lastBit (num / den) := by
      rw [← pow_add]
      refine (f.lt_two_pow_lastBit m).le.trans (Nat.pow_le_pow_right (by decide) ?_)
      omega
    exact hmagnitude.trans (hlow _ hbelow)

end Format

namespace Binary

section Rank

variable {x y : Binary f} {a b : Int}

theorem rank_eq_none_iff : x.rank = none ↔ x.isNaN = true := by
  cases x <;> simp [rank, isNaN]

theorem exists_rank (h : x.isNaN = false) : ∃ a, x.rank = some a := by
  cases hrank : x.rank with
  | none =>
    rw [rank_eq_none_iff.1 hrank] at h
    cases h
  | some a => exact ⟨a, rfl⟩

theorem isNaN_of_rank (h : x.rank = some a) : x.isNaN = false := by
  rw [Bool.eq_false_iff]
  intro hnan
  rw [rank_eq_none_iff.2 hnan] at h
  cases h

theorem le_iff (hx : x.rank = some a) (hy : y.rank = some b) : x.le y = true ↔ a ≤ b := by
  simp only [le, hx, hy, decide_eq_true_eq]

theorem exists_rank_of_le (h : x.le y = true) :
    ∃ a b, x.rank = some a ∧ y.rank = some b ∧ a ≤ b := by
  unfold le at h
  split at h
  case h_1 a b hx hy => exact ⟨a, b, hx, hy, by simpa using h⟩
  case h_2 => cases h

theorem zero_le_iff : (0 : Binary f).le x = true ↔ ∃ a, x.rank = some a ∧ 0 ≤ a := by
  constructor
  · intro h
    obtain ⟨a, b, ha, hb, hle⟩ := exists_rank_of_le h
    rw [rank_zero, Option.some.injEq] at ha
    exact ⟨b, hb, by omega⟩
  · rintro ⟨a, ha, hle⟩
    exact (le_iff rank_zero ha).2 hle

theorem rank_nonneg_of_zero_le (h : (0 : Binary f).le x = true) : ∀ b ∈ x.rank, 0 ≤ b := by
  obtain ⟨a, ha, hle⟩ := zero_le_iff.1 h
  intro b hb
  obtain rfl : a = b := Option.some.inj (ha.symm.trans hb)
  exact hle

/-- The rank of the greater of two numbers. -/
theorem rank_max (hx : x.rank = some a) (hy : y.rank = some b) :
    (x.max y).rank = some (Max.max a b) := by
  simp only [max, isNaN_of_rank hx, lt, hx, hy, Bool.false_eq_true, if_false, decide_eq_true_eq]
  split
  · rw [hy, max_eq_right (by omega)]
  · rw [hx, max_eq_left (by omega)]

theorem rank_max_of_nan (hx : x.rank = none) : (x.max y).rank = y.rank := by
  simp only [max, rank_eq_none_iff.1 hx, if_true]

/-- The rank of the smaller of two numbers. -/
theorem rank_min (hx : x.rank = some a) (hy : y.rank = some b) :
    (x.min y).rank = some (Min.min a b) := by
  simp only [min, isNaN_of_rank hx, lt, hx, hy, Bool.false_eq_true, if_false, decide_eq_true_eq]
  split
  · rw [hy, min_eq_right (by omega)]
  · rw [hx, min_eq_left (by omega)]

/-- Of anything and zero the greater is a number from zero on. -/
theorem exists_rank_max_zero (x : Binary f) : ∃ a, (x.max 0).rank = some a ∧ 0 ≤ a := by
  cases hx : x.rank with
  | none => exact ⟨0, by rw [rank_max_of_nan hx, rank_zero], le_refl 0⟩
  | some a => exact ⟨Max.max a 0, rank_max hx rank_zero, le_max_right a 0⟩

theorem rank_clamp {low high : Binary f} {l h : Int} (hx : x.rank = some a)
    (hlow : low.rank = some l) (hhigh : high.rank = some h) (hle : l ≤ h) :
    ∃ c, (x.clamp low high).rank = some c ∧ l ≤ c ∧ c ≤ h := by
  simp only [clamp, lt, hx, hlow, hhigh, decide_eq_true_eq]
  split
  · exact ⟨l, hlow, le_refl l, hle⟩
  · split
    · exact ⟨h, hhigh, hle, le_refl h⟩
    · exact ⟨a, hx, by omega, by omega⟩

end Rank

section Rounded

/-- The rank of a rounded quotient: its rounded magnitude, or the top for all that lies beyond. -/
theorem rank_ofRatio_eq (negative : Bool) (num den : Nat) :
    ∃ magnitude : Nat, magnitude = Min.min (f.round num den) (2 ^ f.top) ∧
      (ofRatio negative num den : Binary f).rank =
        some (if negative then -(magnitude : Int) else magnitude) := by
  refine ⟨_, rfl, ?_⟩
  unfold ofRatio
  split
  case isTrue h =>
    rw [min_eq_left h.le]
    rfl
  case isFalse h =>
    rw [min_eq_right (not_lt.1 h)]
    rfl

theorem rank_ofUnits (n : Int) :
    ∃ magnitude : Nat, magnitude = Min.min (f.round n.natAbs 1) (2 ^ f.top) ∧
      (ofUnits n : Binary f).rank = some (if n < 0 then -(magnitude : Int) else magnitude) := by
  obtain ⟨magnitude, hmagnitude, hrank⟩ := rank_ofRatio_eq (f := f) (n < 0) n.natAbs 1
  refine ⟨magnitude, hmagnitude, ?_⟩
  simpa only [ofUnits, decide_eq_true_eq] using hrank

/-- A count of units at or below a number of the format is not rounded above it. -/
theorem rank_ofUnits_le {n m : Int} (hm : f.Fits m.natAbs) (h : n ≤ m) :
    ∃ a, (ofUnits n : Binary f).rank = some a ∧ a ≤ m := by
  obtain ⟨magnitude, hmagnitude, hrank⟩ := rank_ofUnits (f := f) n
  refine ⟨_, hrank, ?_⟩
  split
  case isTrue hneg =>
    -- Where both are below zero, the one at or below the other has the greater magnitude.
    rcases le_or_gt 0 m with hpos | hbelow
    · omega
    · have hround : m.natAbs ≤ f.round n.natAbs 1 := f.le_round hm Nat.one_pos (by omega)
      have hmin : m.natAbs ≤ magnitude := hmagnitude ▸ le_min hround hm.1.le
      omega
  case isFalse hpos =>
    have hround : f.round n.natAbs 1 ≤ m.natAbs := f.round_le hm Nat.one_pos (by omega)
    have hmin : magnitude ≤ m.natAbs := hmagnitude ▸ (min_le_left _ _).trans hround
    omega

/-- A count of units at or above a number of the format is not rounded below it. -/
theorem le_rank_ofUnits {n m : Int} (hm : f.Fits m.natAbs) (h : m ≤ n) :
    ∃ a, (ofUnits n : Binary f).rank = some a ∧ m ≤ a := by
  obtain ⟨magnitude, hmagnitude, hrank⟩ := rank_ofUnits (f := f) n
  refine ⟨_, hrank, ?_⟩
  split
  case isTrue hneg =>
    have hround : f.round n.natAbs 1 ≤ m.natAbs := f.round_le hm Nat.one_pos (by omega)
    have hmin : magnitude ≤ m.natAbs := hmagnitude ▸ (min_le_left _ _).trans hround
    omega
  case isFalse hpos =>
    rcases le_or_gt m 0 with hbelow | habove
    · omega
    · have hround : m.natAbs ≤ f.round n.natAbs 1 := f.le_round hm Nat.one_pos (by omega)
      have hmin : m.natAbs ≤ magnitude := hmagnitude ▸ le_min hround hm.1.le
      omega

end Rounded

section Arithmetic

variable {x y : Binary f} {a b : Int}

def signedUnits (negative : Bool) (units : Nat) : Int :=
  if negative then -(units : Int) else units

theorem natAbs_signedUnits (negative : Bool) (units : Nat) :
    (signedUnits negative units).natAbs = units := by
  cases negative <;> simp [signedUnits]

theorem signedUnits_bounds (negative : Bool) (units : Nat) :
    -(units : Int) ≤ signedUnits negative units ∧ signedUnits negative units ≤ units := by
  cases negative <;> simp only [signedUnits] <;> omega

theorem rank_finite (negative : Bool) (units : Nat) (h : f.Fits units) :
    (finite negative units h).rank = some (signedUnits negative units) := rfl

theorem rank_infinite (negative : Bool) :
    (infinite negative : Binary f).rank = some (signedUnits negative (2 ^ f.top)) := rfl

theorem rank_signedZero (negative : Bool) : (signedZero negative : Binary f).rank = some 0 := by
  cases negative <;> rfl

theorem rank_ofUnits_zero : (ofUnits 0 : Binary f).rank = some 0 := by
  obtain ⟨magnitude, hmagnitude, hrank⟩ := rank_ofUnits (f := f) 0
  rw [Int.natAbs_zero, f.round_zero, Nat.zero_min] at hmagnitude
  rw [hrank, hmagnitude]
  rfl

/-- A sum of finite numbers is the rounded sum of their units; the sign of a zero has no part in
the rank. -/
theorem rank_add_finite (p q : Bool) {m n : Nat} (hm : f.Fits m) (hn : f.Fits n) :
    ((finite p m hm : Binary f) + finite q n hn).rank =
      (ofUnits (signedUnits p m + signedUnits q n) : Binary f).rank := by
  have hadd : (finite p m hm : Binary f) + finite q n hn =
      if signedUnits p m + signedUnits q n == 0 then signedZero (p && q)
      else ofUnits (signedUnits p m + signedUnits q n) := rfl
  rw [hadd]
  by_cases hzero : signedUnits p m + signedUnits q n = 0
  · rw [hzero, rank_ofUnits_zero]
    exact rank_signedZero _
  · rw [if_neg (by simpa using hzero)]

/-- A sum lies on that side of a summand to which the other summand moves it. -/
theorem rank_add {c : Int} (hx : x.rank = some a) (hc : (x + y).rank = some c) :
    ∃ b, y.rank = some b ∧ (0 ≤ b → a ≤ c) ∧ (b ≤ 0 → c ≤ a) := by
  cases x with
  | nan => cases hx
  | infinite p =>
    cases y with
    | nan => cases hc
    | infinite q =>
      have hadd : (infinite p : Binary f) + infinite q = if p == q then infinite p else nan := rfl
      rw [hadd] at hc
      split at hc
      · have hac : a = c := Option.some.inj (hx.symm.trans hc)
        exact ⟨_, rank_infinite q, fun _ => hac.le, fun _ => hac.ge⟩
      · cases hc
    | finite q n hn =>
      have hac : a = c := Option.some.inj (hx.symm.trans hc)
      exact ⟨_, rank_finite q n hn, fun _ => hac.le, fun _ => hac.ge⟩
  | finite p m hm =>
    have ha : signedUnits p m = a := Option.some.inj hx
    have htop : m < 2 ^ f.top := hm.1
    cases y with
    | nan => cases hc
    | infinite q =>
      -- A finite number lies between the infinities, so the sum is beyond it on the right side.
      have hcq : signedUnits q (2 ^ f.top) = c := Option.some.inj hc
      have hends : c = ((2 ^ f.top : Nat) : Int) ∨ c = -((2 ^ f.top : Nat) : Int) := by
        cases q with
        | false => exact .inl hcq.symm
        | true => exact .inr hcq.symm
      have hbounds := signedUnits_bounds p m
      refine ⟨_, rank_infinite q, ?_, ?_⟩
      · intro hb
        rw [hcq] at hb
        omega
      · intro hb
        rw [hcq] at hb
        omega
    | finite q n hn =>
      have hfits : f.Fits (signedUnits p m).natAbs := by rwa [natAbs_signedUnits]
      rw [rank_add_finite] at hc
      refine ⟨_, rank_finite q n hn, ?_, ?_⟩
      · intro hb
        obtain ⟨r, hr, hle⟩ := le_rank_ofUnits (n := signedUnits p m + signedUnits q n) hfits
          (by omega)
        have hrc : r = c := Option.some.inj (hr.symm.trans hc)
        omega
      · intro hb
        obtain ⟨r, hr, hle⟩ := rank_ofUnits_le (n := signedUnits p m + signedUnits q n) hfits
          (by omega)
        have hrc : r = c := Option.some.inj (hr.symm.trans hc)
        omega

theorem rank_neg (x : Binary f) : x.neg.rank = x.rank.map (- ·) := by
  cases x with
  | nan => rfl
  | infinite p => cases p <;> simp [neg, rank]
  | finite p m hm => cases p <;> simp [neg, rank]

/-- To take away nothing below zero does not make more of a number. -/
theorem rank_sub_le (hx : x.rank = some a) (hy : ∀ b ∈ y.rank, 0 ≤ b) :
    ∀ c ∈ (x - y).rank, c ≤ a := by
  intro c hc
  obtain ⟨b, hb, -, hle⟩ := rank_add (y := y.neg) hx hc
  rw [rank_neg] at hb
  obtain ⟨b', hb', rfl⟩ := Option.map_eq_some_iff.1 hb
  have hpos := hy b' hb'
  exact hle (by omega)

/-- To add nothing below zero does not make less of a number. -/
theorem le_rank_add (hx : x.rank = some a) (hy : ∀ b ∈ y.rank, 0 ≤ b) :
    ∀ c ∈ (x + y).rank, a ≤ c := by
  intro c hc
  obtain ⟨b, hb, hle, -⟩ := rank_add hx hc
  exact hle (hy b hb)

/-- A sum of two numbers of which one is finite is a number. -/
theorem exists_rank_add (hx : x.rank = some a) (hy : y.rank = some b)
    (hfinite : x.isFinite = true ∨ y.isFinite = true) : ∃ c, (x + y).rank = some c := by
  cases x with
  | nan => cases hx
  | infinite p =>
    cases y with
    | nan => cases hy
    | infinite q => rcases hfinite with h | h <;> cases h
    | finite q n hn => exact ⟨_, rank_infinite p⟩
  | finite p m hm =>
    cases y with
    | nan => cases hy
    | infinite q => exact ⟨_, rank_infinite q⟩
    | finite q n hn =>
      obtain ⟨magnitude, -, hrank⟩ := rank_ofUnits (f := f) (signedUnits p m + signedUnits q n)
      exact ⟨_, (rank_add_finite p q hm hn).trans hrank⟩

end Arithmetic

section Sign

variable {x y : Binary f}

/-- Only zero is both negative and not below zero. -/
theorem eq_zero_of_nonneg {units : Nat} (h : 0 ≤ signedUnits true units) : units = 0 := by
  simp only [signedUnits, if_true] at h
  omega

theorem rank_ofRatio_nonneg {negative : Bool} {num den : Nat} (h : negative = true → num = 0) :
    ∀ c ∈ (ofRatio negative num den : Binary f).rank, 0 ≤ c := by
  obtain ⟨magnitude, hmagnitude, hrank⟩ := rank_ofRatio_eq (f := f) negative num den
  intro c hc
  have hcm := Option.some.inj (hrank.symm.trans hc)
  cases negative with
  | false => exact hcm ▸ Int.natCast_nonneg _
  | true =>
    rw [h rfl, f.round_zero, Nat.zero_min] at hmagnitude
    rw [hmagnitude] at hcm
    exact hcm.le

theorem eq_false_of_infinite {negative : Bool}
    (h : ∀ a ∈ (infinite negative : Binary f).rank, 0 ≤ a) : negative = false := by
  have htop : 0 < 2 ^ f.top := Nat.two_pow_pos _
  cases negative with
  | false => rfl
  | true =>
    have hneg : (0 : Int) ≤ -((2 ^ f.top : Nat) : Int) := h _ (rank_infinite true)
    omega

/-- What an infinite factor makes of a finite one: nothing below zero, if only a zero has the other
sign. -/
theorem rank_infinite_mul_nonneg {negative : Bool} {units : Nat} (h : negative = true → units = 0) :
    ∀ c ∈ (if units == 0 then nan else infinite negative : Binary f).rank, 0 ≤ c := by
  intro c hc
  split at hc
  case isTrue => cases hc
  case isFalse hne =>
    cases negative with
    | false => exact Option.some.inj hc ▸ Int.natCast_nonneg _
    | true => exact absurd (h rfl) (by simpa using hne)

/-- A product of numbers from zero on is not below zero. -/
theorem rank_mul_nonneg (hx : ∀ a ∈ x.rank, 0 ≤ a) (hy : ∀ b ∈ y.rank, 0 ≤ b) :
    ∀ c ∈ (x * y).rank, 0 ≤ c := by
  intro c hc
  cases x with
  | nan => cases hc
  | infinite p =>
    obtain rfl := eq_false_of_infinite hx
    cases y with
    | nan => cases hc
    | infinite q =>
      obtain rfl := eq_false_of_infinite hy
      exact Option.some.inj hc ▸ Int.natCast_nonneg _
    | finite q n hn =>
      apply rank_infinite_mul_nonneg ?_ c hc
      intro hsigns
      obtain rfl : q = true := by simpa using hsigns
      exact eq_zero_of_nonneg (hy _ (rank_finite true n hn))
  | finite p m hm =>
    cases y with
    | nan => cases hc
    | infinite q =>
      obtain rfl := eq_false_of_infinite hy
      apply rank_infinite_mul_nonneg ?_ c hc
      intro hsigns
      obtain rfl : p = true := by simpa using hsigns
      exact eq_zero_of_nonneg (hx _ (rank_finite true m hm))
    | finite q n hn =>
      have hmul : (finite p m hm : Binary f) * finite q n hn =
        ofRatio (p != q) (m * n) (2 ^ f.scale) := rfl
      rw [hmul] at hc
      apply rank_ofRatio_nonneg ?_ c hc
      -- A product with a negative sign has a negative zero among its factors.
      intro hsigns
      cases p with
      | true =>
        have hm0 := eq_zero_of_nonneg (hx _ (rank_finite true m hm))
        rw [hm0, Nat.zero_mul]
      | false =>
        obtain rfl : q = true := by simpa using hsigns
        have hn0 := eq_zero_of_nonneg (hy _ (rank_finite true n hn))
        rw [hn0, Nat.mul_zero]

/-- A quotient by a number above zero of one from zero on is not below zero. -/
theorem rank_div_nonneg (hx : ∀ a ∈ x.rank, 0 ≤ a) (hy : ∀ b ∈ y.rank, 0 < b) :
    ∀ c ∈ (x / y).rank, 0 ≤ c := by
  intro c hc
  cases x with
  | nan => cases hc
  | infinite p =>
    obtain rfl := eq_false_of_infinite hx
    cases y with
    | nan => cases hc
    | infinite q => cases hc
    | finite q n hn =>
      cases q with
      | false => exact Option.some.inj hc ▸ Int.natCast_nonneg _
      | true =>
        have hpos : 0 < signedUnits true n := hy _ (rank_finite true n hn)
        have hn0 := eq_zero_of_nonneg hpos.le
        rw [hn0] at hpos
        exact absurd hpos (lt_irrefl 0)
  | finite p m hm =>
    cases y with
    | nan => cases hc
    | infinite q => exact (Option.some.inj ((rank_signedZero (f := f) (p != q)).symm.trans hc)).le
    | finite q n hn =>
      have hpos : 0 < signedUnits q n := hy _ (rank_finite q n hn)
      have hn0 : n ≠ 0 := by
        rintro rfl
        cases q <;> exact absurd hpos (lt_irrefl 0)
      have hq : q = false := by
        cases q with
        | false => rfl
        | true => exact absurd (eq_zero_of_nonneg hpos.le) hn0
      have hdiv : (finite p m hm : Binary f) / finite q n hn =
        if n == 0 then (if m == 0 then nan else infinite (p != q))
        else ofRatio (p != q) (m * 2 ^ f.scale) n := rfl
      rw [hdiv, if_neg (by simpa using hn0), hq] at hc
      refine rank_ofRatio_nonneg ?_ c hc
      intro hsigns
      obtain rfl : p = true := by simpa using hsigns
      have hm0 := eq_zero_of_nonneg (hx _ (rank_finite true m hm))
      rw [hm0, Nat.zero_mul]

end Sign

end Binary

end AbilityScript.Number
