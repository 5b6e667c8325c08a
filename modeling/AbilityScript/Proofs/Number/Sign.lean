import AbilityScript.Number.Binary
import Mathlib.Tactic.Positivity
import Mathlib.Algebra.Order.Ring.Int

namespace AbilityScript.Number

variable {f : Format}

/-- Rounding to the nearest whole number does not fall below the truncated quotient. -/
theorem le_nearestEven (num den : Nat) : num / den ≤ nearestEven num den := by
  unfold nearestEven
  dsimp only
  split
  · omega
  · split <;> omega

theorem Format.round_zero (f : Format) (den : Nat) : f.round 0 den = 0 := by
  have hone : 2 ^ f.lastBit 0 = 1 := by
    have hp := f.precision_pos
    have hbit : f.lastBit 0 = 0 := by
      simp only [Format.lastBit, Nat.log2_zero]
      omega
    rw [hbit, pow_zero]
  simp [Format.round, Nat.zero_div, hone, nearestEven]

/-- A magnitude of a unit or more does not round to zero. -/
theorem Format.round_pos (f : Format) {num den : Nat} (hden : 0 < den) (hle : den ≤ num) :
    0 < f.round num den := by
  have hq : num / den ≠ 0 := (Nat.div_pos hle hden).ne'
  have hbit : 2 ^ f.lastBit (num / den) ≤ num / den := by
    have hp := f.precision_pos
    have hlog : 2 ^ (num / den).log2 ≤ num / den := Nat.log2_self_le hq
    refine le_trans (Nat.pow_le_pow_right (by decide) ?_) hlog
    simp only [Format.lastBit]
    omega
  -- The kept bits of a quotient of one or more are a number of one or more.
  have hlow : 1 ≤ num / (den * 2 ^ f.lastBit (num / den)) := by
    rw [← Nat.div_div_eq_div_mul]
    exact Nat.div_pos hbit (Nat.two_pow_pos _)
  have hnear := hlow.trans (le_nearestEven num (den * 2 ^ f.lastBit (num / den)))
  exact Nat.mul_pos hnear (Nat.two_pow_pos _)

namespace Binary

/-- The rank of a rounded quotient has the sign that the quotient is given. -/
theorem rank_ofRatio (negative : Bool) (num den : Nat) :
    ∃ magnitude : Nat, (ofRatio negative num den : Binary f).rank =
        some (if negative then -(magnitude : Int) else magnitude) ∧
      (0 < f.round num den → 0 < magnitude) := by
  unfold ofRatio
  split
  · exact ⟨f.round num den, rfl, id⟩
  · exact ⟨2 ^ f.top, rfl, fun _ => Nat.two_pow_pos _⟩

/-- A whole number from zero on has a rank from zero on. -/
theorem rank_ofInt_of_nonneg {n : Int} (hn : 0 ≤ n) :
    ∃ r, (ofInt n : Binary f).rank = some r ∧ 0 ≤ r := by
  have hunits : ¬ n * 2 ^ f.scale < 0 := not_lt.2 (by positivity)
  obtain ⟨magnitude, hrank, -⟩ :=
    rank_ofRatio (f := f) false (n * 2 ^ f.scale).natAbs 1
  refine ⟨magnitude, ?_, Int.natCast_nonneg _⟩
  simpa [ofInt, ofUnits, hunits] using hrank

/-- A whole number below zero has a rank below zero. -/
theorem rank_ofInt_of_neg {n : Int} (hn : n < 0) :
    ∃ r, (ofInt n : Binary f).rank = some r ∧ r < 0 := by
  have hunits : n * 2 ^ f.scale < 0 := mul_neg_of_neg_of_pos hn (by positivity)
  obtain ⟨magnitude, hrank, hpos⟩ :=
    rank_ofRatio (f := f) true (n * 2 ^ f.scale).natAbs 1
  have hround : 0 < f.round (n * 2 ^ f.scale).natAbs 1 :=
    f.round_pos Nat.one_pos (Int.natAbs_pos.2 hunits.ne)
  refine ⟨-(magnitude : Int), ?_, by have := hpos hround; omega⟩
  simpa [ofInt, ofUnits, hunits] using hrank

theorem rank_zero : (0 : Binary f).rank = some 0 := by
  change (ofInt 0 : Binary f).rank = some 0
  have hround : f.round 0 1 = 0 := f.round_zero 1
  simp [ofInt, ofUnits, ofRatio, hround, rank]

/-- Comparison with zero tells the sign of a whole number. -/
theorem zero_le_ofInt_iff (n : Int) : (0 : Binary f).le (ofInt n) = true ↔ 0 ≤ n := by
  constructor
  · intro hle
    by_contra hneg
    obtain ⟨r, hrank, hr⟩ := rank_ofInt_of_neg (f := f) (not_le.1 hneg)
    simp only [le, rank_zero, hrank, decide_eq_true_eq] at hle
    omega
  · intro hn
    obtain ⟨r, hrank, hr⟩ := rank_ofInt_of_nonneg (f := f) hn
    simp only [le, rank_zero, hrank, decide_eq_true_eq]
    exact hr

end Binary

end AbilityScript.Number
