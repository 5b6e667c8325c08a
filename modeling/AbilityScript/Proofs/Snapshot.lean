import AbilityScript.Proofs.EventSubjects
import AbilityScript.Proofs.ExecutionCourse
import AbilityScript.Proofs.WithoutReloads

namespace AbilityScript

namespace Cache

/-- After reloads the last set is in force, or the first if there were none. -/
theorem set_reloads (sets : List AbilitySet) (c : Cache) :
    (c.reloads sets).2.set = sets.getLast?.getD c.set := by
  induction sets generalizing c with
  | nil => rfl
  | cons set sets ih =>
    have hlater : (c.reloads (set :: sets)).2.set = sets.getLast?.getD set := ih (c.reload set).2
    rw [hlater]
    cases sets with
    | nil => rfl
    | cons next rest => rw [List.getLast?_cons_cons, List.getLast?_cons, Option.getD_some, Option.getD_some]

/-- Every reload returns the set that was in force just before it. -/
theorem replaced_reloads (sets : List AbilitySet) (c : Cache) :
    (c.reloads sets).1 = (c.set :: sets).dropLast := by
  induction sets generalizing c with
  | nil => rfl
  | cons set sets ih =>
    have hlater : (c.reloads (set :: sets)).1 = c.set :: (set :: sets).dropLast :=
      congrArg (c.set :: ·) (ih (c.reload set).2)
    rw [hlater, List.dropLast_cons_cons]

theorem version_reloads (sets : List AbilitySet) (c : Cache) :
    (c.reloads sets).2.version = c.version + sets.length := by
  induction sets generalizing c with
  | nil => rfl
  | cons set sets ih =>
    have hlater : (c.reloads (set :: sets)).2.version = c.version + 1 + sets.length :=
      ih (c.reload set).2
    rw [hlater, List.length_cons]
    omega

end Cache

inductive Start where
  | onEvent (event : Event)
  | byPlayer (player : EntityId)

namespace Start

def context (name : String) : Start → Context
  | onEvent event => event.context name
  | byPlayer player => ⟨name, .unbound, player, .base⟩

def run (e : Engine) (name : String) (s : Simulation) :
    Start → Except Refusal Execution × Simulation
  | onEvent event => e.dispatch event name s
  | byPlayer player => e.executeByName name player s

def mismatch? (name : String) (a : Ability) : Start → Option Refusal
  | onEvent event =>
    if a.trigger = event.trigger then none
    else some (.triggerMismatch name a.trigger event.trigger)
  | byPlayer _ => none

def runFound (e : Engine) (name : String) (s : Simulation) (found : Option Ability)
    (start : Start) : Except Refusal Execution × Simulation :=
  match found with
  | none => (.error (.abilityNotFound name), s)
  | some a =>
    match start.mismatch? name a with
    | some refusal => (.error refusal, s)
    | none => e.run a (start.context name) s

structure Passes (e : Engine) (name : String) (a : Ability) (start : Start) : Prop where
  trigger : start.mismatch? name a = none
  subjects : Engine.incompatibility? e.strict a (start.context name).capabilities = none

/-- Of the abilities in force a start looks at the one under its name, once. -/
theorem run_eq (start : Start) (e : Engine) (name : String) (s : Simulation) :
    start.run e name s = start.runFound e name s (s.cache.set.get? name) := by
  cases start with
  | onEvent event =>
    cases hfound : s.cache.set.get? name with
    | none => simp only [run, Engine.dispatch_of_missing hfound, runFound]
    | some a =>
      by_cases htrigger : a.trigger = event.trigger
      · simp only [run, Engine.dispatch_of_trigger hfound htrigger, runFound, mismatch?,
          if_pos htrigger, context]
      · simp only [run, Engine.dispatch_of_other_trigger hfound htrigger, runFound, mismatch?,
          if_neg htrigger]
  | byPlayer player =>
    cases hfound : s.cache.set.get? name with
    | none => simp only [run, Engine.executeByName, hfound, runFound]
    | some a =>
      simp only [run, Engine.executeByName, hfound, runFound, mismatch?]
      rfl

theorem run_of_passes {start : Start} {e : Engine} {name : String} {a : Ability} {s : Simulation}
    (hstored : s.cache.set.get? name = some a) (hpasses : start.Passes e name a) :
    start.run e name s = e.run a (start.context name) s := by
  rw [run_eq, hstored]
  simp only [runFound, hpasses.trigger]

end Start

theorem Effect.filterMap_withoutReloads (effects : List (Effect Ability)) :
    (Effect.withoutReloads effects).filterMap Effect.reloaded? = [] := by
  apply List.filterMap_eq_nil_iff.2
  intro effect heffect
  have hkept := (List.mem_filter.1 heffect).2
  cases effect with
  | reload abilities => cases hkept
  | _ => rfl

/-- Without their reloads, an ability and the work that waits leave the abilities in force. -/
theorem Engine.cache_run_withoutReloads (e : Engine) (a : Ability) (context : Context)
    {s t : Simulation} (h : s.SameButReloads t) :
    (e.run a.withoutReloads context t).2.cache = t.cache := by
  obtain ⟨deeds, hcourse, hdone, -⟩ := Engine.course_run e a.withoutReloads context t
  have hnone : ∀ d ∈ deeds, d.reloads = [] := by
    -- A deed is a call of the ability without its reloads, or of work that waits without its own.
    intro d hd
    obtain ⟨act, thread, found⟩ := d
    rcases hdone _ hd with hmade | ⟨task, htask, hact⟩
    · cases hmade with
      | test hlisted =>
        obtain ⟨c, -, rfl⟩ := List.mem_map.1 hlisted
        exact Effect.filterMap_withoutReloads _
      | call hlisted =>
        obtain ⟨c, -, rfl⟩ := List.mem_map.1 hlisted
        exact Effect.filterMap_withoutReloads _
    · obtain rfl : act = .task task := hact
      rw [h.pending] at htask
      obtain ⟨waiting, -, rfl⟩ := List.mem_map.1 htask
      cases waiting with
      | call c context => exact Effect.filterMap_withoutReloads _
      | mark isAsync tag => rfl
  have hreloads : deeds.flatMap Deed.reloads = [] := List.flatMap_eq_nil_iff.2 hnone
  rw [hcourse.cache, hreloads]
  rfl

/-- An ability that is started under its name and passes the checks is run as it was found: its
conditions are tested and its keywords called, whatever reloads their bodies make. Afterwards the
last set that was put in force, or else the first, is in force, and every later start sees that one;
each reload returned the set before it. Had the bodies made no reloads, the result and the scene
would be the same. -/
theorem execution_runs_against_snapshot (e : Engine) (start : Start) (name : String) (a : Ability)
    (s : Simulation) (hstored : s.cache.set.get? name = some a)
    (hpasses : start.Passes e name a) :
    let result := (start.run e name s).1
    let s' := (start.run e name s).2
    ∃ deeds, Engine.Ending e a (start.context name) s deeds result s' ∧
      Simulation.Course deeds s s' ∧
      s'.cache.set = (deeds.flatMap Deed.reloads).getLast?.getD s.cache.set ∧
      s'.cache.version = s.cache.version + (deeds.flatMap Deed.reloads).length ∧
      (s.cache.reloads (deeds.flatMap Deed.reloads)).1 =
        (s.cache.set :: deeds.flatMap Deed.reloads).dropLast ∧
      (∀ (next : Start) (other : String), next.run e other s' = next.runFound e other s'
        (((deeds.flatMap Deed.reloads).getLast?.getD s.cache.set).get? other)) ∧
      ∀ t, s.SameButReloads t →
        (e.run a.withoutReloads (start.context name) t).1 = result ∧
        (e.run a.withoutReloads (start.context name) t).2.scene = s'.scene ∧
        (e.run a.withoutReloads (start.context name) t).2.cache = t.cache := by
  intro result s'
  have hrun : start.run e name s = e.run a (start.context name) s :=
    Start.run_of_passes hstored hpasses
  have hresult : result = (e.run a (start.context name) s).1 := congrArg Prod.fst hrun
  have hafter : s' = (e.run a (start.context name) s).2 := congrArg Prod.snd hrun
  obtain ⟨deeds, hending⟩ := Engine.ending_run e a (start.context name) s
  rw [← hresult, ← hafter] at hending
  have hcourse := hending.course
  have hset : s'.cache.set = (deeds.flatMap Deed.reloads).getLast?.getD s.cache.set := by
    rw [hcourse.cache]
    exact Cache.set_reloads _ _
  refine ⟨deeds, hending, hcourse, hset, ?_, Cache.replaced_reloads _ _, ?_, ?_⟩
  · rw [hcourse.cache]
    exact Cache.version_reloads _ _
  · intro next other
    rw [Start.run_eq, hset]
  · intro t ht
    obtain ⟨hsame, hstates⟩ := Engine.run_withoutReloads e a (start.context name) ht
    rw [hresult, hafter]
    exact ⟨hsame, hstates.scene, Engine.cache_run_withoutReloads e a (start.context name) ht⟩

def abdication : Ability where
  name := "abdication"
  trigger := .damageTaken
  keywords := [
    ⟨⟨"enthrone", [], false, fun _ _ _ =>
      [.reload [⟨"heir", .damageTaken, [], [], none⟩]]⟩, ⟨[]⟩⟩,
    ⟨Builtin.message, ⟨[.targeter .player, .string "Farewell"]⟩⟩]
  conditions := [⟨⟨"resigns", [], fun _ _ _ => (true, [.reload []])⟩, ⟨[]⟩⟩]
  timer := none

/-- The ability runs to its end, and then it is no longer there. -/
theorem execution_runs_against_snapshot_abdication :
    let e : Engine := ⟨true, .inline⟩
    let start : Start := .onEvent (.damageTaken 0 1)
    let s : Simulation := { Simulation.new (.ofList [.player "Alex" .origin] (.new "")) with
      cache := ⟨.ofAbilities [abdication], 1⟩ }
    let s' := (start.run e "abdication" s).2
    s.cache.set.get? "abdication" = some abdication ∧ start.Passes e "abdication" abdication ∧
    (start.run e "abdication" s).1 = .ok ⟨"abdication", 1, 1⟩ ∧
    (s'.scene.entity 0).inbox = ["Farewell"] ∧ s'.cache.set.names = ["heir"] ∧
    s'.cache.version = 3 ∧
    (start.run e "abdication" s').1 = .error (.abilityNotFound "abdication") ∧
    (e.run abdication.withoutReloads (start.context "abdication") s).1 =
      .ok ⟨"abdication", 1, 1⟩ := by
  intro e start s s'
  have hstored : s.cache.set.get? "abdication" = some abdication := rfl
  have hpasses : start.Passes e "abdication" abdication := ⟨by decide, by decide⟩
  obtain ⟨deeds, -, -, -, -, -, -, hplain⟩ :=
    execution_runs_against_snapshot e start "abdication" abdication s hstored hpasses
  have hresult : (start.run e "abdication" s).1 = .ok ⟨"abdication", 1, 1⟩ := by decide +kernel
  refine ⟨hstored, hpasses, hresult, by decide +kernel, by decide +kernel, by decide +kernel,
    by decide +kernel, ?_⟩
  exact (hplain s ⟨rfl, rfl, rfl, rfl, rfl⟩).1.trans hresult

end AbilityScript
