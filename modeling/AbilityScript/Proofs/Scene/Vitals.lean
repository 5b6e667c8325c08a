import AbilityScript.Proofs.Number.Order
import AbilityScript.Scene.Change

namespace AbilityScript

open Number

namespace Entity

structure VitalsInRange (e : Entity) : Prop where
  maxHealth : e.maxHealth.isNaN = false
  health : e.health.isNaN = false
  zero_le : (0 : Binary64).le e.health = true
  le_max : e.health.le e.maxHealth = true

structure FoodInRange (e : Entity) : Prop where
  foodLevel : e.foodLevel ≤ 20
  saturation : e.saturation.isNaN = false
  zero_le : (0 : Binary32).le e.saturation = true
  le_level : e.saturation.le (.ofInt e.foodLevel) = true

variable {e e' : Entity}

theorem vitalsInRange_iff :
    e.VitalsInRange ↔
      ∃ m h : Int, e.maxHealth.rank = some m ∧ e.health.rank = some h ∧ 0 ≤ h ∧ h ≤ m := by
  constructor
  · intro he
    obtain ⟨h, m, hhealth, hmax, hle⟩ := Binary.exists_rank_of_le he.le_max
    exact ⟨m, h, hmax, hhealth, (Binary.le_iff Binary.rank_zero hhealth).1 he.zero_le, hle⟩
  · rintro ⟨m, h, hmax, hhealth, hzero, hle⟩
    exact ⟨Binary.isNaN_of_rank hmax, Binary.isNaN_of_rank hhealth,
      (Binary.le_iff Binary.rank_zero hhealth).2 hzero, (Binary.le_iff hhealth hmax).2 hle⟩

/-- Changes that are about other fields leave the range of these alone. -/
theorem VitalsInRange.of_eq (h : e.VitalsInRange) (hmax : e'.maxHealth = e.maxHealth)
    (hhealth : e'.health = e.health) : e'.VitalsInRange := by
  refine ⟨?_, ?_, ?_, ?_⟩
  · exact hmax ▸ h.maxHealth
  · exact hhealth ▸ h.health
  · exact hhealth ▸ h.zero_le
  · rw [hhealth, hmax]
    exact h.le_max

theorem FoodInRange.of_eq (h : e.FoodInRange) (hlevel : e'.foodLevel = e.foodLevel)
    (hsaturation : e'.saturation = e.saturation) : e'.FoodInRange := by
  refine ⟨?_, ?_, ?_, ?_⟩
  · exact hlevel ▸ h.foodLevel
  · exact hsaturation ▸ h.saturation
  · exact hsaturation ▸ h.zero_le
  · rw [hsaturation, hlevel]
    exact h.le_level

theorem VitalsInRange.le_refl (h : e.VitalsInRange) : e.health.le e.health = true := by
  obtain ⟨-, r, -, hhealth, -⟩ := vitalsInRange_iff.1 h
  exact (Binary.le_iff hhealth hhealth).2 (Int.le_refl r)

theorem VitalsInRange.sendMessage (h : e.VitalsInRange) (text : String) :
    (e.sendMessage text).VitalsInRange := by
  unfold Entity.sendMessage
  split
  · exact h.of_eq rfl rfl
  · exact h

theorem FoodInRange.sendMessage (h : e.FoodInRange) (text : String) :
    (e.sendMessage text).FoodInRange := by
  unfold Entity.sendMessage
  split
  · exact h.of_eq rfl rfl
  · exact h

section Creation

inductive New : Entity → Prop
  | player (name : String) (location : Location) : New (player name location)
  | mob (kind : String) (maxHealth : Binary64) (location : Location) :
      New (mob kind maxHealth location)

theorem New.vitalsInRange (h : e.New) : e.VitalsInRange := by
  cases h with
  | player name location =>
    have htwenty : (0 : Binary64).le 20 = true := by decide +kernel
    obtain ⟨m, hm, hzero⟩ := Binary.zero_le_iff.1 htwenty
    exact vitalsInRange_iff.2 ⟨m, m, hm, hm, hzero, Int.le_refl m⟩
  | mob kind maxHealth location =>
    obtain ⟨m, hm, hzero⟩ := Binary.exists_rank_max_zero maxHealth
    exact vitalsInRange_iff.2 ⟨m, m, hm, hm, hzero, Int.le_refl m⟩

theorem foodInRange_player (name : String) (location : Location) :
    (player name location).FoodInRange := by
  have hnumber : (5 : Binary32).isNaN = false := by decide +kernel
  have hzero : (0 : Binary32).le 5 = true := by decide +kernel
  have hlevel : (5 : Binary32).le (.ofInt 20) = true := by decide +kernel
  exact ⟨Nat.le_refl 20, hnumber, hzero, hlevel⟩

end Creation

section Health

theorem VitalsInRange.setHealth (h : e.VitalsInRange) (x : Binary64) :
    (e.setHealth x).VitalsInRange := by
  obtain ⟨m, r, hmax, -, hzero, hle⟩ := vitalsInRange_iff.1 h
  obtain ⟨a, ha, hnonneg⟩ := Binary.exists_rank_max_zero x
  have hhealth : (e.setHealth x).health.rank = some (min a m) := Binary.rank_min ha hmax
  exact vitalsInRange_iff.2 ⟨m, min a m, hmax, hhealth, by omega, by omega⟩

theorem VitalsInRange.setMaxHealth (h : e.VitalsInRange) (x : Binary64) :
    (e.setMaxHealth x).VitalsInRange := by
  obtain ⟨m, r, -, hr, hzero, -⟩ := vitalsInRange_iff.1 h
  obtain ⟨a, ha, hnonneg⟩ := Binary.exists_rank_max_zero x
  have hhealth : (e.setMaxHealth x).health.rank = some (min r a) := Binary.rank_min hr ha
  exact vitalsInRange_iff.2 ⟨a, min r a, ha, hhealth, by omega, by omega⟩

/-- Damage by an amount that is not below zero, or is no number, does not raise the health. -/
theorem VitalsInRange.damage (h : e.VitalsInRange) {x : Binary64} (hx : ∀ b ∈ x.rank, 0 ≤ b) :
    (e.damage x).VitalsInRange ∧ (e.damage x).health.le e.health = true := by
  obtain ⟨m, r, hmax, hr, hzero, hle⟩ := vitalsInRange_iff.1 h
  -- The difference may be no number, when infinite health meets infinite damage; zero is then left.
  obtain ⟨d, hd, hnonneg, hdr⟩ : ∃ d, (e.damage x).health.rank = some d ∧ 0 ≤ d ∧ d ≤ r := by
    cases hdiff : (e.health - x).rank with
    | none =>
      have hleft : (e.damage x).health.rank = some 0 :=
        (Binary.rank_max_of_nan hdiff).trans Binary.rank_zero
      exact ⟨0, hleft, Int.le_refl 0, hzero⟩
    | some c =>
      have hc : c ≤ r := Binary.rank_sub_le hr hx c hdiff
      have hleft : (e.damage x).health.rank = some (max c 0) :=
        Binary.rank_max hdiff Binary.rank_zero
      exact ⟨max c 0, hleft, by omega, by omega⟩
  exact ⟨vitalsInRange_iff.2 ⟨m, d, hmax, hd, hnonneg, by omega⟩, (Binary.le_iff hd hr).2 hdr⟩

/-- Healing by a finite amount that is not below zero does not lower the health. -/
theorem VitalsInRange.heal (h : e.VitalsInRange) {x : Binary64} (hfinite : x.isFinite = true)
    (hx : (0 : Binary64).le x = true) :
    (e.heal x).VitalsInRange ∧ e.health.le (e.heal x).health = true := by
  obtain ⟨m, r, hmax, hr, hzero, hle⟩ := vitalsInRange_iff.1 h
  obtain ⟨b, hb, hnonneg⟩ := Binary.zero_le_iff.1 hx
  have hamount := Binary.rank_nonneg_of_zero_le hx
  obtain ⟨c, hc⟩ := Binary.exists_rank_add hr hb (.inr hfinite)
  have hrc : r ≤ c := Binary.le_rank_add hr hamount c hc
  have hhealth : (e.heal x).health.rank = some (min c m) := Binary.rank_min hc hmax
  refine ⟨vitalsInRange_iff.2 ⟨m, min c m, hmax, hhealth, by omega, by omega⟩, ?_⟩
  exact (Binary.le_iff hr hhealth).2 (by omega)

/-- Hundredths of the maximum that are not below zero come to an amount that is not, or to no
number, when there are too many of none. -/
theorem VitalsInRange.percentOfMax (h : e.VitalsInRange) {x : Binary64}
    (hx : (0 : Binary64).le x = true) : ∀ b ∈ (e.percentOfMax x).rank, 0 ≤ b := by
  obtain ⟨m, r, hmax, -, hzero, hle⟩ := vitalsInRange_iff.1 h
  have hmaxs : ∀ b ∈ e.maxHealth.rank, 0 ≤ b := by
    intro b hb
    obtain rfl : m = b := Option.some.inj (hmax.symm.trans hb)
    omega
  have hpercents := Binary.rank_nonneg_of_zero_le hx
  have hhundred : ∀ b ∈ (100 : Binary64).rank, 0 < b := by decide +kernel
  exact Binary.rank_div_nonneg (Binary.rank_mul_nonneg hmaxs hpercents) hhundred

end Health

section Food

/-- Below any food level there is no infinite saturation. -/
theorem FoodInRange.isFinite (h : e.FoodInRange) : e.saturation.isFinite = true := by
  have htop : ∀ level < 21, (Binary.infinite false : Binary32).le (.ofInt (level : Nat)) = false := by
    decide +kernel
  have hbottom : (0 : Binary32).le (.infinite true) = false := by decide +kernel
  have hlevel := h.le_level
  have hzero := h.zero_le
  cases hs : e.saturation with
  | finite negative units fits => rfl
  | nan =>
    have hnumber := h.saturation
    rw [hs] at hnumber
    cases hnumber
  | infinite negative =>
    cases negative with
    | false =>
      rw [hs, htop e.foodLevel (Nat.lt_succ_of_le h.foodLevel)] at hlevel
      cases hlevel
    | true =>
      rw [hs, hbottom] at hzero
      cases hzero

/-- Whatever number is added to the saturation, both statistics stay in range. -/
theorem FoodInRange.feed (h : e.FoodInRange) (food : Int) {x : Binary32}
    (hx : x.isNaN = false) : (e.feed food x).FoodInRange := by
  have hlevel : (e.feed food x).foodLevel ≤ 20 := by
    simp only [Entity.feed]
    omega
  obtain ⟨a, ha⟩ := Binary.exists_rank h.saturation
  obtain ⟨b, hb⟩ := Binary.exists_rank hx
  obtain ⟨c, hc⟩ := Binary.exists_rank_add ha hb (.inl h.isFinite)
  obtain ⟨l, hl, hnonneg⟩ :=
    Binary.rank_ofInt_of_nonneg (f := single) (Int.natCast_nonneg (e.feed food x).foodLevel)
  obtain ⟨r, hr, hzero, hle⟩ : ∃ r, (e.feed food x).saturation.rank = some r ∧ 0 ≤ r ∧ r ≤ l :=
    Binary.rank_clamp hc Binary.rank_zero hl hnonneg
  exact ⟨hlevel, Binary.isNaN_of_rank hr, (Binary.le_iff Binary.rank_zero hr).2 hzero,
    (Binary.le_iff hr hl).2 hle⟩

end Food

end Entity

end AbilityScript
