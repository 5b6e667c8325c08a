import AbilityScript.Proofs.Scene.Inbox
import AbilityScript.Proofs.Scene.Vitals

namespace AbilityScript

open Number

namespace Entity

inductive Field where
  | kind
  | location
  | maxHealth
  | health
  | fireTicks
  | foodLevel
  | saturation
  | effects
  | inbox
  deriving DecidableEq

def Field.Stays : Field → Entity → Entity → Prop
  | kind, e, e' => e'.kind = e.kind
  | location, e, e' => e'.location = e.location
  | maxHealth, e, e' => e'.maxHealth = e.maxHealth
  | health, e, e' => e'.health = e.health
  | fireTicks, e, e' => e'.fireTicks = e.fireTicks
  | foodLevel, e, e' => e'.foodLevel = e.foodLevel
  | saturation, e, e' => e'.saturation = e.saturation
  | effects, e, e' => e'.effects = e.effects
  | inbox, e, e' => e'.inbox = e.inbox

theorem Field.stays_refl (field : Field) (e : Entity) : field.Stays e e := by
  cases field <;> rfl

theorem Field.Stays.trans {field : Field} {e e' e'' : Entity} (h : field.Stays e e')
    (h' : field.Stays e' e'') : field.Stays e e'' := by
  cases field <;> exact Eq.trans h' h

def levelAfter (level food : Int) : Int :=
  min (max (level + food) 0) 20

theorem foodLevel_feed (food : Int) (saturation : Binary32) (e : Entity) :
    ((e.feed food saturation).foodLevel : Int) = levelAfter e.foodLevel food := by
  simp only [feed, levelAfter]
  omega

theorem foldl_levelAfter_mem {level : Int} (h : 0 ≤ level ∧ level ≤ 20) (foods : List Int) :
    0 ≤ foods.foldl levelAfter level ∧ foods.foldl levelAfter level ≤ 20 := by
  induction foods generalizing level with
  | nil => exact h
  | cons food foods ih =>
    have hnext : 0 ≤ levelAfter level food ∧ levelAfter level food ≤ 20 := by
      unfold levelAfter
      omega
    exact ih hnext

/-- The food level after a meal in words of a machine: both numbers are widened to 64 bits, added
and held in the range there, and the level is narrowed to 32 bits again. -/
def wordAfter (level : UInt32) (food : Int32) : UInt32 :=
  let sum := level.toUInt64.toInt64 + food.toInt64
  (if sum < 0 then 0 else if 20 < sum then 20 else sum).toUInt64.toUInt32

theorem toInt_widened (level : UInt32) : level.toUInt64.toInt64.toInt = level.toNat := by
  have hsmall : 2 * level.toUInt64.toBitVec.toNat < 2 ^ 64 := by
    have hlevel := level.toNat_lt
    simp only [UInt64.toNat_toBitVec, UInt32.toNat_toUInt64]
    omega
  exact BitVec.toInt_eq_toNat_of_lt hsmall

/-- No sum of a level and a meal overflows 64 bits. -/
theorem toInt_add_widened (level : UInt32) (food : Int32) :
    (level.toUInt64.toInt64 + food.toInt64).toInt = level.toNat + food.toInt := by
  have hlevel := level.toNat_lt
  have hleast := food.le_toInt
  have hmost := food.toInt_lt
  rw [Int64.toInt_add, toInt_widened, Int32.toInt_toInt64]
  exact Int.bmod_eq_of_le (by omega) (by omega)

theorem toNat_wordAfter (level : UInt32) (food : Int32) :
    ((wordAfter level food).toNat : Int) = levelAfter level.toNat food.toInt := by
  -- The range is small enough for narrowing to be tried on every level of it.
  have hnarrow : ∀ n < 21, (Int64.ofNat n).toUInt64.toUInt32.toNat = n := by decide
  simp only [wordAfter, levelAfter, ← toInt_add_widened]
  generalize level.toUInt64.toInt64 + food.toInt64 = sum
  have hzero : sum < 0 ↔ sum.toInt < 0 := Int64.lt_iff_toInt_lt
  have htwenty : 20 < sum ↔ 20 < sum.toInt := Int64.lt_iff_toInt_lt
  split
  case isTrue hbelow =>
    have hnegative := hzero.1 hbelow
    have hlevel : min (max sum.toInt 0) 20 = 0 := by omega
    rw [hlevel]
    rfl
  case isFalse hbelow =>
    have hnonneg := mt hzero.2 hbelow
    split
    case isTrue habove =>
      have hgreat := htwenty.1 habove
      have hlevel : min (max sum.toInt 0) 20 = 20 := by omega
      rw [hlevel]
      rfl
    case isFalse habove =>
      have hsmall := mt htwenty.2 habove
      obtain ⟨n, hn⟩ := Int.eq_ofNat_of_zero_le (show 0 ≤ sum.toInt by omega)
      have hword : sum = Int64.ofNat n := by
        rw [← Int64.ofInt_toInt sum, hn]
        rfl
      rw [hword, hnarrow n (by omega), ← hword, hn]
      omega

/-- From a level in its range a meal comes to the same in words. -/
theorem feed_in_words {e : Entity} (h : e.foodLevel ≤ 20) (food : Int32) (saturation : Binary32) :
    ((UInt32.ofNat e.foodLevel).toUInt64.toInt64 + food.toInt64).toInt =
        e.foodLevel + food.toInt ∧
      (e.feed food.toInt saturation).foodLevel = (wordAfter (.ofNat e.foodLevel) food).toNat := by
  have hword : (UInt32.ofNat e.foodLevel).toNat = e.foodLevel := by
    rw [UInt32.toNat_ofNat']
    omega
  have hlevel := foodLevel_feed food.toInt saturation e
  have hsum := toInt_add_widened (.ofNat e.foodLevel) food
  have hwords := toNat_wordAfter (.ofNat e.foodLevel) food
  rw [hword] at hsum hwords
  exact ⟨hsum, by omega⟩

end Entity

/-- Of listed effects the last of each kind, in the order in which these stand. -/
def PotionEffect.lastOfKinds : List PotionEffect → List PotionEffect
  | [] => []
  | effect :: later =>
    if later.any (·.kind == effect.kind) then lastOfKinds later else effect :: lastOfKinds later

namespace PotionEffect

theorem subset_lastOfKinds (effects : List PotionEffect) : lastOfKinds effects ⊆ effects := by
  induction effects with
  | nil => exact List.Subset.refl _
  | cons effect later ih =>
    rw [lastOfKinds]
    split
    · exact List.subset_cons_of_subset _ ih
    · exact List.cons_subset_cons _ ih

theorem nodup_kind_lastOfKinds (effects : List PotionEffect) :
    ((lastOfKinds effects).map kind).Nodup := by
  induction effects with
  | nil => exact .nil
  | cons effect later ih =>
    rw [lastOfKinds]
    split
    case isTrue => exact ih
    case isFalse hlast =>
      rw [List.map_cons, List.nodup_cons]
      refine ⟨?_, ih⟩
      intro hkind
      obtain ⟨other, hother, heq⟩ := List.mem_map.1 hkind
      have hmem := subset_lastOfKinds later hother
      exact hlast (List.any_eq_true.2 ⟨other, hmem, by simpa using heq⟩)

/-- A further effect takes the place of one of its kind and stands last. -/
theorem lastOfKinds_concat (effects : List PotionEffect) (effect : PotionEffect) :
    lastOfKinds (effects ++ [effect]) =
      (lastOfKinds effects).filter (fun old => old.kind != effect.kind) ++ [effect] := by
  induction effects with
  | nil => rfl
  | cons first later ih =>
    rw [List.cons_append, lastOfKinds, lastOfKinds, ih, List.any_append]
    by_cases hlater : later.any (·.kind == first.kind) = true
    · rw [hlater, Bool.true_or, if_pos rfl, if_pos rfl]
    · -- The last of its kind so far stays just if the further effect is of another kind.
      have hnone : later.any (·.kind == first.kind) = false := by simpa using hlater
      by_cases hkind : effect.kind = first.kind
      · simp [hnone, hkind]
      · simp [hnone, hkind, Ne.symm hkind]

end PotionEffect

namespace EntityChange

def fields : EntityChange → List Entity.Field
  | setHealth _ | damage _ | heal _ => [.health]
  | setMaxHealth _ => [.maxHealth, .health]
  | setFireTicks _ => [.fireTicks]
  | feed .. => [.foodLevel, .saturation]
  | addEffect _ => [.effects]
  | sendMessage _ => [.inbox]

def addedEffect? : EntityChange → Option PotionEffect
  | addEffect effect => some effect
  | _ => none

def message? : EntityChange → Option String
  | sendMessage text => some text
  | _ => none

def fireTicks? : EntityChange → Option UInt32
  | setFireTicks ticks => some ticks
  | _ => none

def food? : EntityChange → Option Int
  | feed food _ => some food
  | _ => none

def applyAll (changes : List EntityChange) (e : Entity) : Entity :=
  changes.foldl (fun e change => change.apply e) e

theorem applyAll_cons (change : EntityChange) (changes : List EntityChange) (e : Entity) :
    applyAll (change :: changes) e = applyAll changes (change.apply e) := rfl

/-- A change leaves the fields alone that it is not about. -/
theorem stays_apply (change : EntityChange) (field : Entity.Field) (h : field ∉ change.fields)
    (e : Entity) : field.Stays e (change.apply e) := by
  cases change with
  | setHealth _ | damage _ | heal _ =>
    cases field with
    | health => exact absurd List.mem_cons_self h
    | _ => rfl
  | setMaxHealth _ =>
    cases field with
    | maxHealth | health => simp [fields] at h
    | _ => rfl
  | setFireTicks _ =>
    cases field with
    | fireTicks => exact absurd List.mem_cons_self h
    | _ => rfl
  | feed _ _ =>
    cases field with
    | foodLevel | saturation => simp [fields] at h
    | _ => rfl
  | addEffect _ =>
    cases field with
    | effects => exact absurd List.mem_cons_self h
    | _ => rfl
  | sendMessage text =>
    show field.Stays e (e.sendMessage text)
    unfold Entity.sendMessage
    split
    · cases field with
      | inbox => exact absurd List.mem_cons_self h
      | _ => rfl
    -- To a mob no message is delivered at all.
    · exact field.stays_refl e

theorem isPlayer_apply (change : EntityChange) (e : Entity) :
    (change.apply e).isPlayer = e.isPlayer := by
  have hkind : (change.apply e).kind = e.kind :=
    change.stays_apply .kind (by cases change <;> simp [fields]) e
  rw [Entity.isPlayer, hkind, Entity.isPlayer]

section Histories

variable (changes : List EntityChange) {e : Entity}

theorem stays_applyAll {field : Entity.Field} (h : ∀ change ∈ changes, field ∉ change.fields) :
    field.Stays e (applyAll changes e) := by
  induction changes generalizing e with
  | nil => exact field.stays_refl e
  | cons change changes ih =>
    obtain ⟨hnow, hlater⟩ := List.forall_mem_cons.1 h
    exact (change.stays_apply field hnow e).trans (ih hlater)

/-- Of all effects that were added the last of each kind are there. -/
theorem effects_applyAll {added : List PotionEffect}
    (h : e.effects = PotionEffect.lastOfKinds added) :
    (applyAll changes e).effects =
      PotionEffect.lastOfKinds (added ++ changes.filterMap addedEffect?) := by
  -- Each addition goes to the end of `added`; the other changes leave the effects alone.
  induction changes generalizing e added with
  | nil => rw [List.filterMap_nil, List.append_nil]; exact h
  | cons change changes ih =>
    rw [applyAll_cons]
    cases change with
    | addEffect effect =>
      have hadded : (e.addEffect effect).effects =
          PotionEffect.lastOfKinds (added ++ [effect]) := by
        rw [PotionEffect.lastOfKinds_concat, ← h]
        rfl
      simp only [List.filterMap_cons, addedEffect?]
      rw [List.append_cons]
      exact ih hadded
    | _ => exact ih (Eq.trans (stays_apply _ .effects (by simp [fields]) e) h)

/-- A player has all messages that were sent, after those that it had, and a mob none of them. -/
theorem inbox_applyAll :
    (applyAll changes e).inbox =
      e.inbox ++ if e.isPlayer then changes.filterMap message? else [] := by
  induction changes generalizing e with
  | nil => simp [applyAll]
  | cons change changes ih =>
    rw [applyAll_cons, ih, isPlayer_apply]
    cases change with
    | sendMessage text =>
      show (e.sendMessage text).inbox ++ _ = _
      rw [Entity.inbox_sendMessage]
      split <;> simp [message?]
    | _ => rfl

theorem fireTicks_applyAll :
    (applyAll changes e).fireTicks = (changes.filterMap fireTicks?).getLast?.getD e.fireTicks := by
  induction changes generalizing e with
  | nil => rfl
  | cons change changes ih =>
    rw [applyAll_cons, ih]
    cases change with
    | setFireTicks ticks =>
      simp only [List.filterMap_cons, fireTicks?, List.getLast?_cons, Option.getD_some]
      rfl
    | _ => rw [stays_apply _ .fireTicks (by simp [fields]) e]; rfl

theorem foodLevel_applyAll :
    ((applyAll changes e).foodLevel : Int) =
      (changes.filterMap food?).foldl Entity.levelAfter (e.foodLevel : Int) := by
  induction changes generalizing e with
  | nil => rfl
  | cons change changes ih =>
    rw [applyAll_cons, ih]
    cases change with
    | feed food saturation =>
      simp only [List.filterMap_cons, food?, List.foldl_cons,
        ← Entity.foodLevel_feed food saturation]
      rfl
    | _ => rw [stays_apply _ .foodLevel (by simp [fields]) e]; rfl

end Histories

end EntityChange

open EntityChange

/-- Whatever changes an entity goes through from its creation on, it has of each kind of effect the
one that was added last, in the order of these additions; a player has all messages that were sent,
in order, and a mob none; the fire is what it was set to last; and the food level is that of the
meals in turn, held in its range each time, which comes to the same in words of a machine. No change
shows in a field that it is not about. -/
theorem entity_told_by_changes (e : Entity) (he : e.New) (changes : List EntityChange) :
    let e' := applyAll changes e
    (e'.effects.map PotionEffect.kind).Nodup ∧
    e'.effects = PotionEffect.lastOfKinds (changes.filterMap addedEffect?) ∧
    e'.inbox = (if e.isPlayer then changes.filterMap message? else []) ∧
    e'.fireTicks = (changes.filterMap fireTicks?).getLast?.getD 0 ∧
    (e'.foodLevel : Int) =
      (changes.filterMap food?).foldl Entity.levelAfter (if e.isPlayer then 20 else 0) ∧
    e'.foodLevel ≤ 20 ∧
    (∀ (food : Int32) saturation,
      ((UInt32.ofNat e'.foodLevel).toUInt64.toInt64 + food.toInt64).toInt =
          e'.foodLevel + food.toInt ∧
        (e'.feed food.toInt saturation).foodLevel =
          (Entity.wordAfter (.ofNat e'.foodLevel) food).toNat) ∧
    (∀ (change : EntityChange) (field : Entity.Field), field ∉ change.fields →
      field.Stays e' (change.apply e')) ∧
    ∀ field : Entity.Field, (∀ change ∈ changes, field ∉ change.fields) → field.Stays e e' := by
  intro e'
  have hnew : e.effects = [] ∧ e.inbox = [] ∧ e.fireTicks = 0 ∧
      e.foodLevel = if e.isPlayer then 20 else 0 := by
    cases he <;> exact ⟨rfl, rfl, rfl, rfl⟩
  obtain ⟨heffects, hinbox, hfire, hfood⟩ := hnew
  have hlasts : e'.effects = PotionEffect.lastOfKinds (changes.filterMap addedEffect?) := by
    have hnone : e.effects = PotionEffect.lastOfKinds [] := heffects
    exact effects_applyAll changes hnone
  have hlevels : (e'.foodLevel : Int) =
      (changes.filterMap food?).foldl Entity.levelAfter (if e.isPlayer then 20 else 0) := by
    rw [foodLevel_applyAll, hfood]
    split <;> rfl
  have hrange : e'.foodLevel ≤ 20 := by
    have hstart : 0 ≤ (if e.isPlayer then 20 else 0 : Int) ∧
        (if e.isPlayer then 20 else 0 : Int) ≤ 20 := by
      split <;> decide
    have hlevel := (Entity.foldl_levelAfter_mem hstart (changes.filterMap food?)).2
    omega
  refine ⟨?_, hlasts, ?_, ?_, hlevels, hrange, Entity.feed_in_words hrange,
    fun change field h => change.stays_apply field h e', fun field h => stays_applyAll changes h⟩
  · rw [hlasts]
    exact PotionEffect.nodup_kind_lastOfKinds _
  · rw [inbox_applyAll, hinbox, List.nil_append]
  · rw [fireTicks_applyAll, hfire]

/-- The greatest meal there is and then the least one, which together would leave more than they do
in turn, and a second dose of speed after the poison. -/
theorem entity_told_by_changes_banquet :
    let alex := Entity.player "Alex" .origin
    let changes : List EntityChange := [.addEffect ⟨.speed, 100, 0⟩, .feed 2147483647 0,
      .addEffect ⟨.poison, 60, 1⟩, .feed (-2147483648) 0, .sendMessage "Help!",
      .addEffect ⟨.speed, 40, 2⟩, .setFireTicks 7, .feed 3 0, .setFireTicks 5]
    let e' := applyAll changes alex
    alex.New ∧ e'.effects = [⟨.poison, 60, 1⟩, ⟨.speed, 40, 2⟩] ∧ e'.inbox = ["Help!"] ∧
      e'.fireTicks = 5 ∧ (e'.foodLevel : Int) = 3 ∧ (e'.feed (Int32.toInt (-9)) 0).foodLevel = 0 ∧
      Entity.Field.effects.Stays e' ((EntityChange.setFireTicks 9).apply e') ∧
      Entity.Field.health.Stays alex e' := by
  intro alex changes e'
  have hnew : alex.New := .player "Alex" .origin
  obtain ⟨-, heffects, hinbox, hfire, hfood, -, hwords, hstays, hall⟩ :=
    entity_told_by_changes alex hnew changes
  exact ⟨hnew, heffects, hinbox, hfire, hfood.trans (by decide +kernel),
    (hwords (-9) 0).2.trans (by decide +kernel), hstays (.setFireTicks 9) .effects (by decide),
    hall .health (by decide)⟩

end AbilityScript
