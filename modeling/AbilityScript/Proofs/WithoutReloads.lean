import AbilityScript.Proofs.InStep

namespace AbilityScript

namespace Effect

variable {α : Type}

def isReload : Effect α → Bool
  | reload _ => true
  | _ => false

def withoutReloads (effects : List (Effect α)) : List (Effect α) :=
  effects.filter fun effect => !effect.isReload

/-- Reloads do nothing to a scene. -/
theorem inTurn_withoutReloads (effects : List (Effect α)) (scene : Scene) :
    inTurn (withoutReloads effects) scene = inTurn effects scene := by
  induction effects generalizing scene with
  | nil => rfl
  | cons effect effects ih =>
    cases effect with
    | onEntity id change => exact ih _
    | onWorld change => exact ih _
    | notice n => exact ih scene
    | reload abilities => exact ih scene

end Effect

def Keyword.withoutReloads (k : Keyword Ability) : Keyword Ability :=
  { k with body := fun context a scene => Effect.withoutReloads (k.body context a scene) }

def Condition.withoutReloads (k : Condition Ability) : Condition Ability :=
  { k with
    body := fun context a scene =>
      ((k.body context a scene).1, Effect.withoutReloads (k.body context a scene).2) }

def KeywordCall.withoutReloads (c : KeywordCall Ability) : KeywordCall Ability :=
  ⟨c.keyword.withoutReloads, c.arguments⟩

def ConditionCall.withoutReloads (c : ConditionCall Ability) : ConditionCall Ability :=
  ⟨c.condition.withoutReloads, c.arguments⟩

def Ability.withoutReloads (a : Ability) : Ability :=
  { a with
    keywords := a.keywords.map KeywordCall.withoutReloads
    conditions := a.conditions.map ConditionCall.withoutReloads }

def Task.withoutReloads : Task → Task
  | call c context => call c.withoutReloads context
  | mark isAsync tag => mark isAsync tag

theorem Task.onScene_withoutReloads (task : Task) (scene : Scene) :
    task.withoutReloads.onScene scene = task.onScene scene := by
  cases task with
  | call c context => exact Effect.inTurn_withoutReloads _ scene
  | mark isAsync tag => rfl

namespace Simulation

/-- The states differ in no more than the abilities in force and the transcript, and in that what
waits does no reloads in the second. -/
structure SameButReloads (s t : Simulation) : Prop where
  scene : t.scene = s.scene
  pending : t.pending = s.pending.map Task.withoutReloads
  questions : t.questions = s.questions
  handovers : t.handovers = s.handovers
  pauses : t.pauses = s.pauses

/-- What waits does the same to every scene without its reloads. -/
theorem SameButReloads.inStep {s t : Simulation} (h : SameButReloads s t) : InStep s t where
  scene := h.scene
  pending := by
    rw [h.pending]
    exact List.forall₂_map_right_iff.2
      (List.forall₂_same.2 fun task _ scene => task.onScene_withoutReloads scene)
  questions := h.questions
  handovers := h.handovers
  pauses := h.pauses

end Simulation

namespace Engine

theorem incompatibility?_withoutReloads (strict : Bool) (a : Ability) (supplied : Capabilities) :
    incompatibility? strict a.withoutReloads supplied = incompatibility? strict a supplied := by
  have htargeters : a.withoutReloads.targeters = a.targeters := by
    simp only [Ability.targeters, Ability.withoutReloads, List.map_map]
    rfl
  simp only [incompatibility?, htargeters]
  rfl

theorem sameOnScenes_withoutReloads (a : Ability) (context : Context) :
    a.SameOnScenes context context a.withoutReloads where
  name := rfl
  incompatibility strict := incompatibility?_withoutReloads strict a context.capabilities
  conditions := List.forall₂_map_right_iff.2 (List.forall₂_same.2 fun _ _ =>
    ⟨rfl, fun _ => rfl, fun scene => Effect.inTurn_withoutReloads _ scene⟩)
  keywords := List.forall₂_map_right_iff.2 (List.forall₂_same.2 fun c _ =>
    ⟨rfl, fun scene => Task.onScene_withoutReloads (.call c context) scene⟩)

/-- An ability comes to the same result and the same scene if its reloads are left out. -/
theorem run_withoutReloads (e : Engine) (a : Ability) (context : Context) {s t : Simulation}
    (h : s.SameButReloads t) :
    (e.run a.withoutReloads context t).1 = (e.run a context s).1 ∧
      (e.run a context s).2.InStep (e.run a.withoutReloads context t).2 :=
  run_inStep e (sameOnScenes_withoutReloads a context) h.inStep

end Engine

end AbilityScript
