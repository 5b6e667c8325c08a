import AbilityScript.Proofs.Builtin.Deeds
import AbilityScript.Proofs.Scene.Vitals

/-!
Vital statistics over time. Whatever executions of compiled abilities and whatever settings of the
host an entity goes through, its health stays between zero and its maximum; damage never raises it
and healing never lowers it. A player's food and saturation stay in range as well.
-/
namespace AbilityScript

open Number

/-- What each version of an entity preserves, a change of some entity preserves. -/
theorem Scene.modifyEntity_keeps {P : Entity → Prop} {scene : Scene} {id other : EntityId}
    {f : Entity → Entity} (h : P (scene.entity other))
    (hf : P (scene.entity other) → P (f (scene.entity other))) :
    P ((scene.modifyEntity id f).entity other) := by
  rw [entity_modifyEntity]
  split
  · exact hf h
  · exact h

namespace Builtin

variable {context : Context} {scene scene' : Scene} {k : Keyword Ability} {values : List Value}

/-- No line stores an infinite number, or what is no number. -/
theorem KeywordValues.isFinite (h : KeywordValues k values) {x : Binary64}
    (hx : Value.double x ∈ values) : x.isFinite = true := by
  cases h <;> simp_all

/-- Amounts of damage and of healing are stored from zero on. -/
theorem KeywordValues.zero_le (h : KeywordValues k values)
    (hk : k.name ∈ [Builtin.damage.name, Builtin.heal.name, Builtin.damagePercent.name]) {x : Binary64}
    (hx : Value.double x ∈ values) : (0 : Binary64).le x = true := by
  cases h with
  | damage _ _ hzero => simp_all
  | heal _ _ hzero => simp_all
  | damagePercent _ _ hzero => simp_all
  | _ => exact absurd hk (by decide)

section Vitals

variable {id : EntityId} (h : Performs context scene k values scene') (hv : KeywordValues k values)
  (hid : (scene.entity id).VitalsInRange)
include h hv hid

/-- Every operation of a built-in keyword keeps the vital statistics of every entity in range. -/
theorem Performs.vitalsInRange : (scene'.entity id).VitalsInRange := by
  cases h with
  | damage =>
    have hx := hv.zero_le (by decide) (List.mem_cons_of_mem _ List.mem_cons_self)
    exact Scene.modifyEntity_keeps hid fun he => (he.damage (Binary.rank_nonneg_of_zero_le hx)).1
  | heal =>
    have hx := hv.zero_le (by decide) (List.mem_cons_of_mem _ List.mem_cons_self)
    have hfinite := hv.isFinite (List.mem_cons_of_mem _ List.mem_cons_self)
    exact Scene.modifyEntity_keeps hid fun he => (he.heal hfinite hx).1
  | setHealth => exact Scene.modifyEntity_keeps hid fun he => he.setHealth _
  -- What hundredths come to may be no number at all; the new health is brought into its range.
  | healPercent => exact Scene.modifyEntity_keeps hid fun he => he.setHealth _
  | damagePercent =>
    have hx := hv.zero_le (by decide) (List.mem_cons_of_mem _ List.mem_cons_self)
    exact Scene.modifyEntity_keeps hid fun he => (he.damage (he.percentOfMax hx)).1
  | lightning => exact hid
  | message => exact Scene.modifyEntity_keeps hid fun he => he.sendMessage _
  | _ => exact Scene.modifyEntity_keeps hid fun he => he.of_eq rfl rfl

theorem Performs.health_le_of_damage
    (hk : k.name = Builtin.damage.name ∨ k.name = Builtin.damagePercent.name) :
    (scene'.entity id).health.le (scene.entity id).health = true := by
  have hunchanged := hid.le_refl
  cases h with
  | damage =>
    have hx := hv.zero_le (by decide) (List.mem_cons_of_mem _ List.mem_cons_self)
    exact Scene.modifyEntity_keeps (P := fun e => e.health.le (scene.entity id).health = true)
      hunchanged fun _ => (hid.damage (Binary.rank_nonneg_of_zero_le hx)).2
  | damagePercent =>
    have hx := hv.zero_le (by decide) (List.mem_cons_of_mem _ List.mem_cons_self)
    exact Scene.modifyEntity_keeps (P := fun e => e.health.le (scene.entity id).health = true)
      hunchanged fun _ => (hid.damage (hid.percentOfMax hx)).2
  | _ => exact absurd hk (by decide)

theorem Performs.le_health_of_heal (hk : k.name = Builtin.heal.name) :
    (scene.entity id).health.le (scene'.entity id).health = true := by
  cases h with
  | heal =>
    have hx := hv.zero_le (by decide) (List.mem_cons_of_mem _ List.mem_cons_self)
    have hfinite := hv.isFinite (List.mem_cons_of_mem _ List.mem_cons_self)
    exact Scene.modifyEntity_keeps (P := fun e => (scene.entity id).health.le e.health = true)
      hid.le_refl fun _ => (hid.heal hfinite hx).2
  | _ => exact absurd hk (by decide)

end Vitals

/-- A finite number is a number in any format, if an infinite one where it does not fit. -/
theorem isNaN_convert {x : Binary64} (h : x.isFinite = true) :
    (x.convert : Binary32).isNaN = false := by
  cases x with
  | nan => cases h
  | infinite negative => cases h
  | finite negative units fits =>
    obtain ⟨magnitude, hrank, -⟩ :=
      Binary.rank_ofRatio (f := single) negative (units * 2 ^ single.scale) (2 ^ double.scale)
    exact Binary.isNaN_of_rank hrank

theorem Performs.foodInRange {id : EntityId} (h : Performs context scene k values scene')
    (hv : KeywordValues k values) (hid : (scene.entity id).FoodInRange) :
    (scene'.entity id).FoodInRange := by
  cases h with
  | feed =>
    have hfinite := hv.isFinite
      (List.mem_cons_of_mem _ (List.mem_cons_of_mem _ List.mem_cons_self))
    exact Scene.modifyEntity_keeps hid fun he => he.feed _ (isNaN_convert hfinite)
  | lightning => exact hid
  | message => exact Scene.modifyEntity_keeps hid fun he => he.sendMessage _
  | _ => exact Scene.modifyEntity_keeps hid fun he => he.of_eq rfl rfl

end Builtin

open Builtin

inductive Occurrence where
  | execute (engine : Engine) (ability : Ability) (context : Context)
  | pause (sched : Scheduler)
  | setHealth (id : EntityId) (health : Binary64)
  | setMaxHealth (id : EntityId) (maxHealth : Binary64)

namespace Occurrence

def run (s : Simulation) : Occurrence → Simulation
  | execute engine a context => (engine.run a context s).2
  | pause sched => s.pause sched
  | setHealth id health => s.changeEntity id (.setHealth health)
  | setMaxHealth id maxHealth => s.changeEntity id (.setMaxHealth maxHealth)

def runAll (occurrences : List Occurrence) (s : Simulation) : Simulation :=
  occurrences.foldl run s

inductive Makes : Occurrence → Act → Prop
  | execute {engine a context act} (made : a.Makes context act) :
      Makes (.execute engine a context) act
  | setHealth {id health} : Makes (.setHealth id health) (.host id (.setHealth health))
  | setMaxHealth {id maxHealth} :
      Makes (.setMaxHealth id maxHealth) (.host id (.setMaxHealth maxHealth))

/-- An occurrence consists of acts of its own and of work that waited, and leaves no other work. -/
theorem course_run (o : Occurrence) (s : Simulation) :
    ∃ deeds, Simulation.Course deeds s (o.run s) ∧
      (∀ d ∈ deeds, o.Makes d.act ∨ ∃ task ∈ s.pending, d.act = .task task) ∧
      ∀ task ∈ (o.run s).pending, o.Makes (.task task) ∨ task ∈ s.pending := by
  have hchange (id : EntityId) (change : EntityChange) :
      Simulation.Course [⟨.host id change, .caller, s.scene⟩] s (s.changeEntity id change) :=
    ⟨.cons rfl (.nil _), rfl, [], (List.append_nil _).symm, rfl⟩
  cases o with
  | execute engine a context =>
    obtain ⟨deeds, hcourse, hdone, hleft⟩ := Engine.course_run engine a context s
    refine ⟨deeds, hcourse, ?_, ?_⟩
    · intro d hd
      exact (hdone d hd).imp_left .execute
    · intro task htask
      exact (hleft task htask).imp_left .execute
  | pause sched =>
    obtain ⟨deeds, hdrained⟩ := Simulation.drained_pause sched s
    refine ⟨deeds, hdrained.course, fun d hd => .inr ?_, fun task htask => .inr ?_⟩
    · have hwaited := hdrained.accounted.subset
        (List.mem_append_left _ (List.mem_map_of_mem hd))
      obtain ⟨task, htask, hact⟩ := List.mem_map.1 hwaited
      exact ⟨task, htask, hact.symm⟩
    · have hwaited := hdrained.accounted.subset
        (List.mem_append_right _ (List.mem_map_of_mem htask))
      obtain ⟨task', htask', hact⟩ := List.mem_map.1 hwaited
      cases hact
      exact htask'
  | setHealth id health =>
    refine ⟨_, hchange id (.setHealth health), fun d hd => .inl ?_, fun task htask => .inr htask⟩
    obtain rfl := List.mem_singleton.1 hd
    exact .setHealth
  | setMaxHealth id maxHealth =>
    refine ⟨_, hchange id (.setMaxHealth maxHealth), fun d hd => .inl ?_,
      fun task htask => .inr htask⟩
    obtain rfl := List.mem_singleton.1 hd
    exact .setMaxHealth

theorem course_runAll (occurrences : List Occurrence) (s : Simulation) :
    ∃ deeds, Simulation.Course deeds s (runAll occurrences s) ∧
      ∀ d ∈ deeds, (∃ o ∈ occurrences, o.Makes d.act) ∨ ∃ task ∈ s.pending, d.act = .task task := by
  induction occurrences generalizing s with
  | nil => exact ⟨[], .refl s, by simp⟩
  | cons o occurrences ih =>
    obtain ⟨deeds, hcourse, hdone, hleft⟩ := course_run o s
    obtain ⟨deeds', hcourse', hdone'⟩ := ih (o.run s)
    refine ⟨deeds ++ deeds', hcourse.append hcourse', ?_⟩
    intro d hd
    rcases List.mem_append.1 hd with hnow | hlater
    · exact (hdone d hnow).imp_left fun hmade => ⟨o, List.mem_cons_self, hmade⟩
    · rcases hdone' d hlater with ⟨other, hother, hmade⟩ | ⟨task, htask, hact⟩
      · exact .inl ⟨other, List.mem_cons_of_mem _ hother, hmade⟩
      -- Work that this occurrence left waiting is its own, or had waited before it.
      · rw [hact]
        rcases hleft task htask with hmade | hwaited
        · exact .inl ⟨o, List.mem_cons_self, hmade⟩
        · exact .inr ⟨task, hwaited, rfl⟩

end Occurrence

namespace Deed

def Calls (d : Deed) (k : Keyword Ability) : Prop :=
  ∃ a context, d.act = .task (.call ⟨k, a⟩ context)

inductive IsVital (d : Deed) : Prop
  | builtin (builtin : d.act.OfBuiltin)
  | setHealth {id health} (act : d.act = .host id (.setHealth health))
  | setMaxHealth {id maxHealth} (act : d.act = .host id (.setMaxHealth maxHealth))

/-- The deed keeps the vital statistics of an entity in range, and if it is one of damage or of
healing it changes the health in that sense only. -/
structure KeepsVitals (d : Deed) (id : EntityId) : Prop where
  before : (d.found.entity id).VitalsInRange
  after : (d.left.entity id).VitalsInRange
  damage : d.Calls Builtin.damage ∨ d.Calls Builtin.damagePercent →
    (d.left.entity id).health.le (d.found.entity id).health = true
  heal : d.Calls Builtin.heal →
    (d.found.entity id).health.le (d.left.entity id).health = true

variable {d : Deed} {id : EntityId}

theorem KeepsVitals.of_left_eq (hleft : d.left = d.found)
    (hid : (d.found.entity id).VitalsInRange) : d.KeepsVitals id := by
  have hsame : (d.left.entity id).health.le (d.found.entity id).health = true ∧
      (d.found.entity id).health.le (d.left.entity id).health = true := by
    rw [hleft]
    exact ⟨hid.le_refl, hid.le_refl⟩
  exact ⟨hid, hleft ▸ hid, fun _ => hsame.1, fun _ => hsame.2⟩

theorem KeepsVitals.of_host {other : EntityId} {change : EntityChange}
    (hact : d.act = .host other change) (hid : (d.found.entity id).VitalsInRange)
    (hafter : (change.apply (d.found.entity id)).VitalsInRange) : d.KeepsVitals id := by
  have hleft : d.left = d.found.modifyEntity other change.apply := by
    rw [left, effects, hact]
    rfl
  refine ⟨hid, ?_, ?_, ?_⟩
  · rw [hleft]
    exact Scene.modifyEntity_keeps hid fun _ => hafter
  · rintro (⟨a, context, hcall⟩ | ⟨a, context, hcall⟩)
    · exact absurd (hact.symm.trans hcall) (by simp)
    · exact absurd (hact.symm.trans hcall) (by simp)
  · rintro ⟨a, context, hcall⟩
    exact absurd (hact.symm.trans hcall) (by simp)

/-- One deed preserves the range of the vital statistics of every entity. -/
theorem IsVital.keepsVitals (h : d.IsVital) (hid : (d.found.entity id).VitalsInRange) :
    d.KeepsVitals id := by
  cases h with
  | setHealth hact => exact .of_host hact hid (hid.setHealth _)
  | setMaxHealth hact => exact .of_host hact hid (hid.setMaxHealth _)
  | builtin hbuiltin =>
    cases outcome hbuiltin with
    | nothing hleft _ => exact .of_left_eq hleft hid
    | @performed c context hact hsound hperforms =>
      have hcalls {k : Keyword Ability} (hk : d.Calls k) : c.keyword.name = k.name := by
        obtain ⟨a, context', hcall⟩ := hk
        have heq := hact.symm.trans hcall
        cases heq
        rfl
      refine ⟨hid, hperforms.vitalsInRange hsound.values hid, ?_, ?_⟩
      · intro hk
        exact hperforms.health_le_of_damage hsound.values hid (hk.imp hcalls hcalls)
      · intro hk
        exact hperforms.le_health_of_heal hsound.values hid (hcalls hk)

theorem IsVital.foodInRange (h : d.IsVital) (hid : (d.found.entity id).FoodInRange) :
    (d.left.entity id).FoodInRange := by
  cases h with
  | setHealth hact =>
    rw [left, effects, hact]
    exact Scene.modifyEntity_keeps hid fun he => he.of_eq rfl rfl
  | setMaxHealth hact =>
    rw [left, effects, hact]
    exact Scene.modifyEntity_keeps hid fun he => he.of_eq rfl rfl
  | builtin hbuiltin =>
    cases outcome hbuiltin with
    | nothing hleft _ => exact hleft ▸ hid
    | performed _ hsound hperforms => exact hperforms.foodInRange hsound.values hid

end Deed

inductive Task.IsCompiled : Task → Prop
  | call {text c context}
      (compiled : Compile.keywordLine Registry.withBuiltins.registry text = .ok c) :
      IsCompiled (.call c context)
  | mark {isAsync tag} : IsCompiled (.mark isAsync tag)

theorem Task.IsCompiled.ofBuiltin {task : Task} (h : task.IsCompiled) :
    (Act.task task).OfBuiltin := by
  cases h with
  | @call text c context hcompiled =>
    obtain ⟨name, hname⟩ := Compile.find?_of_line (Compile.line_of_keywordLine hcompiled)
    have hk := Registry.mem_withBuiltins.1 _ (NameMap.mem_items_of_get? hname)
    exact .keyword hk (soundKeyword_of_typed hk (Compile.typed_of_keywordLine hcompiled))
  | mark => exact .mark

theorem Occurrence.isVital_of_makes {o : Occurrence} {d : Deed} (hmade : o.Makes d.act)
    (hcompiled : ∀ engine a context, o = .execute engine a context →
      Registry.withBuiltins.registry.Produces a) : d.IsVital := by
  generalize hact : d.act = act at hmade
  cases hmade with
  | execute made =>
    have hbuiltin := Act.ofBuiltin_of_makes (hcompiled _ _ _ rfl) made
    exact .builtin (hact ▸ hbuiltin)
  | setHealth => exact .setHealth hact
  | setMaxHealth => exact .setMaxHealth hact

/-- Whatever happens to an entity from its creation on, be it executions of compiled abilities with
built-in functions or settings of its health and maximum to anything at all, its vital statistics
stay in range at every moment, no damage raises its health and no healing lowers it; and the food
statistics of a player stay in range as well. -/
theorem vitals_stay_in_range (occurrences : List Occurrence) (s : Simulation)
    (hcompiled : ∀ engine a context, Occurrence.execute engine a context ∈ occurrences →
      Registry.withBuiltins.registry.Produces a)
    (hwaiting : ∀ task ∈ s.pending, task.IsCompiled) :
    ∃ deeds, Simulation.Course deeds s (Occurrence.runAll occurrences s) ∧
      (∀ d ∈ deeds, (∃ o ∈ occurrences, o.Makes d.act) ∨ ∃ task ∈ s.pending, d.act = .task task) ∧
      (∀ id, (s.scene.entity id).New →
        ((Occurrence.runAll occurrences s).scene.entity id).VitalsInRange ∧
          ∀ d ∈ deeds, d.KeepsVitals id) ∧
      ∀ id name location, s.scene.entity id = .player name location →
        ((Occurrence.runAll occurrences s).scene.entity id).FoodInRange ∧
          ∀ d ∈ deeds, (d.found.entity id).FoodInRange ∧ (d.left.entity id).FoodInRange := by
  obtain ⟨deeds, hcourse, hdone⟩ := Occurrence.course_runAll occurrences s
  have hvital : ∀ d ∈ deeds, d.IsVital := by
    intro d hd
    rcases hdone d hd with ⟨o, ho, hmade⟩ | ⟨task, htask, hact⟩
    · exact o.isVital_of_makes hmade fun engine a context heq =>
        hcompiled engine a context (heq ▸ ho)
    · exact .builtin (hact ▸ (hwaiting task htask).ofBuiltin)
  refine ⟨deeds, hcourse, hdone, ?_, ?_⟩
  · intro id hnew
    -- The invariant along the deeds is the range of the statistics of this one entity.
    obtain ⟨hend, hfound⟩ := hcourse.scene.invariant
      (P := fun scene => (scene.entity id).VitalsInRange)
      (fun d hd hid => ((hvital d hd).keepsVitals hid).after) hnew.vitalsInRange
    exact ⟨hend, fun d hd => (hvital d hd).keepsVitals (hfound d hd)⟩
  · intro id name location hplayer
    have hstart : (s.scene.entity id).FoodInRange :=
      hplayer ▸ Entity.foodInRange_player name location
    obtain ⟨hend, hfound⟩ := hcourse.scene.invariant
      (P := fun scene => (scene.entity id).FoodInRange)
      (fun d hd hid => (hvital d hd).foodInRange hid) hstart
    exact ⟨hend, fun d hd => ⟨hfound d hd, (hvital d hd).foodInRange (hfound d hd)⟩⟩

def retaliation : Ability where
  name := "retaliation"
  trigger := .damageTaken
  keywords := Compile.calls
    (["damagepercent(?entity, 250)", "heal(?player, 0.5)", "feed(?player, -3, 1e300)"].map
      (Compile.keywordLine Registry.withBuiltins.registry))
  conditions := []
  timer := none

/-- An attack by a mob whose maximum health is no number, on a player whose own maximum is then set
to infinity. -/
theorem vitals_stay_in_range_retaliation :
    let s := Simulation.new (.ofList [.player "Alex" .origin, .mob "zombie" .nan .origin] (.new ""))
    let occurrences : List Occurrence := [
      .execute ⟨true, .inline⟩ retaliation ⟨"retaliation", .damageTaken, 0, .entity 1⟩,
      .setMaxHealth 0 (.infinite false), .setHealth 0 .nan]
    let s' := Occurrence.runAll occurrences s
    Registry.withBuiltins.registry.Produces retaliation ∧
    retaliation.keywords.map (fun c => c.keyword.name) = ["damagepercent", "heal", "feed"] ∧
    (s'.scene.entity 0).health = 0 ∧ (s'.scene.entity 0).saturation = .ofInt 17 ∧
    (s'.scene.entity 0).VitalsInRange ∧ (s'.scene.entity 0).FoodInRange ∧
    (s'.scene.entity 1).VitalsInRange := by
  intro s occurrences s'
  have hproduced : Registry.withBuiltins.registry.Produces retaliation :=
    .inr ⟨"retaliation", ⟨"damage-taken", ["damagepercent(?entity, 250)", "heal(?player, 0.5)",
        "feed(?player, -3, 1e300)"], [], none⟩, _,
      (Registry.compile_eq_ok_iff _ _ _ _).2 ⟨.damageTaken, none, by decide, rfl, rfl⟩, rfl⟩
  have hcompiled : ∀ engine a context, Occurrence.execute engine a context ∈ occurrences →
      Registry.withBuiltins.registry.Produces a := by
    intro engine a context hmem
    simp [occurrences] at hmem
    exact hmem.2.1 ▸ hproduced
  obtain ⟨deeds, -, -, hvitals, hfood⟩ := vitals_stay_in_range occurrences s hcompiled
    (fun task htask => absurd htask List.not_mem_nil)
  refine ⟨hproduced, by decide +kernel, by decide +kernel, by decide +kernel, ?_, ?_, ?_⟩
  · exact (hvitals 0 (.player "Alex" .origin)).1
  · exact (hfood 0 "Alex" .origin rfl).1
  · exact (hvitals 1 (.mob "zombie" .nan .origin)).1

end AbilityScript
