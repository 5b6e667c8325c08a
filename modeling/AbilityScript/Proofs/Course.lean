import AbilityScript.Proofs.Dispatch
import AbilityScript.Proofs.Postponed
import AbilityScript.Proofs.RefusalDecision
import Mathlib.Data.List.Perm.Basic

/-!
The course from one state to another, told as a list of deeds: which body acted, in which scene, and
so what it left. Deeds follow one another without a gap, from the scene of the state before to that
of the state after, and they are all that changed the scene or the abilities in force.
-/
namespace AbilityScript

inductive Act where
  | task (task : Task)
  | test (call : ConditionCall Ability) (context : Context)
  | host (id : EntityId) (change : EntityChange)

namespace Act

def effects (scene : Scene) : Act → List (Effect Ability)
  | task (.call c context) => c.keyword.body context c.arguments scene
  | task (.mark _ _) => []
  | test c context => (c.condition.body context c.arguments scene).2
  | host id change => [.onEntity id change]

def run? (thread : Thread) : Act → Option BodyRun
  | task (.call c context) => some (c.run thread context)
  | task (.mark _ _) => none
  | test c context => some (c.run thread context)
  | host _ _ => none

def ofCall (context : Context) (c : KeywordCall Ability) : Act :=
  task (.call c context)

def isAsync : Act → Bool
  | task (.call c _) => c.keyword.isAsync
  | task (.mark isAsync _) => isAsync
  | test _ _ => false
  | host _ _ => false

theorem isAsync_ofCall_of_mem {context : Context} {calls : List (KeywordCall Ability)} {act : Act}
    (h : act ∈ (Ability.asynchronous calls).map (ofCall context)) : act.isAsync = true := by
  obtain ⟨c, hc, rfl⟩ := List.mem_map.1 h
  exact (List.mem_filter.1 hc).2

end Act

structure Deed where
  act : Act
  thread : Thread
  found : Scene

def Effect.reloaded? : Effect Ability → Option AbilitySet
  | reload abilities => some (AbilitySet.ofAbilities abilities)
  | _ => none

namespace Deed

def effects (d : Deed) : List (Effect Ability) :=
  d.act.effects d.found

def left (d : Deed) : Scene :=
  Effect.inTurn d.effects d.found

def reloads (d : Deed) : List AbilitySet :=
  d.effects.filterMap Effect.reloaded?

def run? (d : Deed) : Option BodyRun :=
  d.act.run? d.thread

/-- Each deed found the scene that the one before it left; the first found `scene`, and `scene'` is
what the last one left. -/
inductive Leads : List Deed → Scene → Scene → Prop
  | nil (scene : Scene) : Leads [] scene scene
  | cons {d deeds scene scene'} (found : d.found = scene) (later : Leads deeds d.left scene') :
      Leads (d :: deeds) scene scene'

theorem Leads.append {deeds deeds' : List Deed} {scene scene' scene'' : Scene}
    (h : Leads deeds scene scene') (h' : Leads deeds' scene' scene'') :
    Leads (deeds ++ deeds') scene scene'' := by
  induction h with
  | nil scene => exact h'
  | cons found _ ih => exact .cons found (ih h')

/-- What each deed preserves holds all along. -/
theorem Leads.invariant {P : Scene → Prop} {deeds : List Deed} {scene scene' : Scene}
    (h : Leads deeds scene scene') (hstep : ∀ d ∈ deeds, P d.found → P d.left) (hstart : P scene) :
    P scene' ∧ ∀ d ∈ deeds, P d.found := by
  induction h with
  | nil scene => exact ⟨hstart, by simp⟩
  | @cons d deeds scene scene' found _ ih =>
    obtain ⟨hnow, hlater⟩ := List.forall_mem_cons.1 hstep
    -- The deed found what the one before it left, where the property holds already.
    have hfound : P d.found := found ▸ hstart
    obtain ⟨hend, hall⟩ := ih hlater (hnow hfound)
    exact ⟨hend, List.forall_mem_cons.2 ⟨hfound, hall⟩⟩

end Deed

namespace Cache

def reloads : List AbilitySet → Cache → List AbilitySet × Cache
  | [], c => ([], c)
  | set :: sets, c =>
    let (previous, c') := c.reload set
    let (replaced, c'') := reloads sets c'
    (previous :: replaced, c'')

theorem reloads_append (sets sets' : List AbilitySet) (c : Cache) :
    (c.reloads (sets ++ sets')).2 = ((c.reloads sets).2.reloads sets').2 := by
  induction sets generalizing c with
  | nil => rfl
  | cons set sets ih => exact ih (c.reload set).2

end Cache

namespace Simulation

/-- From `s` to `s'` just the listed deeds were done. -/
structure Course (deeds : List Deed) (s s' : Simulation) : Prop where
  scene : Deed.Leads deeds s.scene s'.scene
  cache : s'.cache = (s.cache.reloads (deeds.flatMap Deed.reloads)).2
  transcript : ∃ entries, s'.transcript = s.transcript ++ entries ∧
    entries.filterMap Happening.run? = deeds.filterMap Deed.run?

namespace Course

variable {deeds deeds' : List Deed} {s s' s'' : Simulation}

theorem refl (s : Simulation) : Course [] s s :=
  ⟨.nil _, rfl, [], (List.append_nil _).symm, rfl⟩

theorem append (h : Course deeds s s') (h' : Course deeds' s' s'') :
    Course (deeds ++ deeds') s s'' := by
  obtain ⟨entries, hentries, hruns⟩ := h.transcript
  obtain ⟨entries', hentries', hruns'⟩ := h'.transcript
  refine ⟨h.scene.append h'.scene, ?_, entries ++ entries', ?_, ?_⟩
  · rw [h'.cache, h.cache, List.flatMap_append, Cache.reloads_append]
  · rw [hentries', hentries, List.append_assoc]
  · rw [List.filterMap_append, List.filterMap_append, hruns, hruns']

/-- What is done from a state on is done from any other with the same scene, the same abilities in
force and the same transcript. -/
theorem of_start {t : Simulation} (h : Course deeds t s') (hscene : t.scene = s.scene)
    (hcache : t.cache = s.cache) (htranscript : t.transcript = s.transcript) :
    Course deeds s s' :=
  ⟨hscene ▸ h.scene, hcache ▸ h.cache, htranscript ▸ h.transcript⟩

/-- An entry that tells of no body is no deed. -/
theorem of_record (entry : Happening) (hentry : entry.run? = none) (s : Simulation) :
    Course [] s (s.record entry) :=
  ⟨.nil _, rfl, [entry], rfl, List.filterMap_cons_none hentry⟩

end Course

/-- Of all effects of a body, the reloads alone bear on the abilities in force. -/
theorem cache_applyEffects_eq (thread : Thread) (effects : List (Effect Ability)) (s : Simulation) :
    (s.applyEffects thread effects).cache =
      (s.cache.reloads (effects.filterMap Effect.reloaded?)).2 := by
  induction effects generalizing s with
  | nil => rfl
  | cons effect effects ih =>
    have hlater : ((s.applyEffect thread effect).applyEffects thread effects).cache =
        ((s.applyEffect thread effect).cache.reloads (effects.filterMap Effect.reloaded?)).2 :=
      ih (s.applyEffect thread effect)
    cases effect <;> exact hlater

theorem course_runTask (thread : Thread) (task : Task) (s : Simulation) :
    Course [⟨.task task, thread, s.scene⟩] s (s.runTask thread task) := by
  have hscene : Deed.Leads [⟨.task task, thread, s.scene⟩] s.scene (s.runTask thread task).scene := by
    refine .cons rfl ?_
    rw [scene_runTask]
    cases task <;> exact .nil _
  refine ⟨hscene, ?_, ?_⟩
  · cases task with
    | call c context =>
      rw [List.flatMap_singleton]
      exact cache_applyEffects_eq thread _ _
    | mark isAsync tag => rfl
  · cases task with
    | call c context =>
      obtain ⟨entries, hentries, hruns, -⟩ := (ran_runKeyword thread c context s).transcript
      exact ⟨entries, hentries, hruns⟩
    | mark isAsync tag => exact ⟨[.marked isAsync tag thread], rfl, rfl⟩

theorem course_testCondition {thread : Thread} {call : ConditionCall Ability} {context : Context}
    {answer : Bool} {s s' : Simulation}
    (h : s.testCondition thread call context = (answer, s')) :
    Course [⟨.test call context, thread, s.scene⟩] s s' := by
  obtain ⟨entries, hentries, hruns, -⟩ := (ran_testCondition h).transcript
  obtain rfl : _ = s' := congrArg Prod.snd h
  refine ⟨.cons rfl ?_, ?_, entries, hentries, hruns⟩
  · have hscene := scene_applyEffects thread (call.condition.body context call.arguments s.scene).2
      (s.record (.ran (call.run thread context)))
    exact hscene ▸ .nil _
  · rw [List.flatMap_singleton]
    exact cache_applyEffects_eq thread _ _

section Waiting

variable {sched : Scheduler} {s s' s'' : Simulation}

/-- From `s` to `s'` some of what waits was done, each piece once. -/
structure Drained (sched : Scheduler) (deeds : List Deed) (s s' : Simulation) : Prop where
  course : Course deeds s s'
  accounted : (deeds.map Deed.act ++ s'.pending.map Act.task).Perm (s.pending.map Act.task)
  inOrder : sched.InOrder → deeds.map Deed.act ++ s'.pending.map Act.task = s.pending.map Act.task

namespace Drained

theorem refl (sched : Scheduler) (s : Simulation) : Drained sched [] s s :=
  ⟨.refl s, .refl _, fun _ => rfl⟩

theorem append {deeds deeds' : List Deed} (h : Drained sched deeds s s')
    (h' : Drained sched deeds' s' s'') : Drained sched (deeds ++ deeds') s s'' where
  course := h.course.append h'.course
  accounted := by
    rw [List.map_append, List.append_assoc]
    exact (h'.accounted.append_left _).trans h.accounted
  inOrder horder := by
    rw [List.map_append, List.append_assoc, h'.inOrder horder, h.inOrder horder]

theorem nothing {deeds : List Deed} (h : Drained sched deeds s s') (hpending : s.pending = []) :
    deeds.map Deed.act = [] ∧ s'.pending = [] := by
  have hperm := h.accounted
  rw [hpending] at hperm
  obtain ⟨hdeeds, hrest⟩ := List.append_eq_nil_iff.1 hperm.eq_nil
  exact ⟨hdeeds, List.map_eq_nil_iff.1 hrest⟩

/-- Where all that waits is asynchronous, so is all that is done of it. -/
theorem filter_isAsync {deeds : List Deed} (h : Drained sched deeds s s')
    (hwaiting : ∀ act ∈ s.pending.map Act.task, act.isAsync = true) :
    (deeds.map Deed.act).filter Act.isAsync = deeds.map Deed.act := by
  refine List.filter_eq_self.2 fun act hact => hwaiting act ?_
  exact h.accounted.mem_iff.1 (List.mem_append_left _ hact)

end Drained

/-- A piece of work that waits is done once when it is picked, and then it no longer waits. -/
theorem course_runPending {i : Nat} {task : Task} (h : s.pending[i]? = some task) :
    Course [⟨.task task, sched.workerThread, s.scene⟩] s (s.runPending sched i) ∧
      (s.runPending sched i).pending = s.pending.eraseIdx i := by
  simp only [runPending, h]
  have hdone := course_runTask sched.workerThread task { s with pending := s.pending.eraseIdx i }
  exact ⟨hdone.of_start rfl rfl rfl, pending_runTask _ _ _⟩

theorem drained_runPending {i : Nat} (hfirst : sched.InOrder → i = 0) (s : Simulation) :
    ∃ deeds, Drained sched deeds s (s.runPending sched i) := by
  cases hi : s.pending[i]? with
  | none =>
    simp only [runPending, hi]
    exact ⟨[], .refl sched s⟩
  | some task =>
    obtain ⟨hcourse, hrest⟩ := @course_runPending sched s i task hi
    obtain ⟨hlt, rfl⟩ := List.getElem?_eq_some_iff.1 hi
    refine ⟨_, hcourse, ?_, ?_⟩
    · rw [hrest]
      exact (List.getElem_cons_eraseIdx_perm hlt).map Act.task
    -- In order it is the first of what waits that is done, and the rest stays as it was.
    · intro horder
      obtain rfl := hfirst horder
      rw [hrest]
      obtain ⟨head, rest, hlist⟩ := List.exists_cons_of_length_pos hlt
      simp only [hlist]
      rfl

theorem drained_pause (sched : Scheduler) (s : Simulation) :
    ∃ deeds, Drained sched deeds s (s.pause sched) := by
  have hpicks : ∀ (picks : List Nat) (t : Simulation), (sched.InOrder → ∀ i ∈ picks, i = 0) →
      ∃ deeds, Drained sched deeds t (picks.foldl (runPending sched) t) := by
    -- Each pick leaves less waiting, so the later picks are made from another state.
    intro picks
    induction picks with
    | nil =>
      intro t _
      exact ⟨[], .refl sched t⟩
    | cons i picks ih =>
      intro t hfirst
      obtain ⟨deeds, hdone⟩ := drained_runPending
        (fun horder => hfirst horder i List.mem_cons_self) t
      obtain ⟨deeds', hlater⟩ := ih (t.runPending sched i)
        (fun horder j hj => hfirst horder j (List.mem_cons_of_mem _ hj))
      exact ⟨_, hdone.append hlater⟩
  obtain ⟨deeds, hdone⟩ := hpicks (sched.picks s.pauses) { s with pauses := s.pauses + 1 }
    (fun horder => horder s.pauses)
  exact ⟨deeds, hdone.course.of_start rfl rfl rfl, hdone.accounted, hdone.inOrder⟩

/-- Of all that waits each piece is done, in order. -/
theorem course_flush (sched : Scheduler) (s : Simulation) :
    ∃ deeds, Course deeds s (s.flush sched) ∧ deeds.map Deed.act = s.pending.map Act.task := by
  have hrun : ∀ (tasks : List Task) (t : Simulation),
      ∃ deeds, Course deeds t (tasks.foldl (fun t task => t.runTask sched.workerThread task) t) ∧
        deeds.map Deed.act = tasks.map Act.task := by
    -- What is run is fixed at the start: the induction is on that list, not on what waits.
    intro tasks
    induction tasks with
    | nil =>
      intro t
      exact ⟨[], .refl t, rfl⟩
    | cons task tasks ih =>
      intro t
      obtain ⟨deeds, hcourse, hacts⟩ := ih (t.runTask sched.workerThread task)
      refine ⟨_, (course_runTask sched.workerThread task t).append hcourse, ?_⟩
      rw [List.map_append, hacts]
      rfl
  obtain ⟨deeds, hcourse, hacts⟩ := hrun s.pending { s with pending := [] }
  exact ⟨deeds, hcourse.of_start rfl rfl rfl, hacts⟩

end Waiting

end Simulation

namespace Engine

open Simulation

variable {context : Context} {s s' : Simulation}

theorem HoldInTurn.course {thread : Thread} {calls : List (ConditionCall Ability)}
    (h : HoldInTurn thread context calls s s') :
    ∃ deeds, Course deeds s s' ∧ deeds.map Deed.act = calls.map (.test · context) := by
  induction h with
  | nil s => exact ⟨[], .refl s, rfl⟩
  | cons holds _ ih =>
    obtain ⟨deeds, hcourse, hacts⟩ := ih
    exact ⟨_ :: deeds, (course_testCondition holds).append hcourse, by
      rw [List.map_cons, List.map_cons, hacts]⟩

theorem FirstFalse.course {thread : Thread} {calls before : List (ConditionCall Ability)}
    {call : ConditionCall Ability} (h : FirstFalse thread context calls before call s s') :
    ∃ deeds, Course deeds s s' ∧ deeds.map Deed.act = (before ++ [call]).map (.test · context) := by
  obtain ⟨s₁, hheld, hfalse⟩ := h.tested
  obtain ⟨deeds, hcourse, hacts⟩ := hheld.course
  exact ⟨_, hcourse.append (course_testCondition hfalse), by
    rw [List.map_append, List.map_append, hacts]; rfl⟩

end Engine

end AbilityScript
