import AbilityScript.Ability

namespace AbilityScript

/-- The abilities in force, and how many times they have been replaced. Two moments with one version
see one and the same set. -/
structure Cache where
  set : AbilitySet
  version : Nat

namespace Cache

def empty : Cache := ⟨.empty, 0⟩

def reload (set : AbilitySet) (c : Cache) : AbilitySet × Cache :=
  (c.set, ⟨set, c.version + 1⟩)

end Cache

inductive Thread where
  | caller
  | primary
  | worker
  deriving DecidableEq, Repr

def Thread.name : Thread → String
  | caller => "caller"
  | primary => "primary"
  | worker => "worker"

inductive Task where
  | call (call : KeywordCall Ability) (context : Context)
  | mark (isAsync : Bool) (tag : String)

structure BodyRun where
  kind : Section
  function : String
  arguments : Arguments
  context : Context
  thread : Thread

inductive Happening where
  | ran (run : BodyRun)
  | asked (answer : Bool)
  | handedOver
  | spawned
  | marked (isAsync : Bool) (tag : String) (thread : Thread)
  | noticed (notice : Notice) (thread : Thread)

structure Simulation where
  scene : Scene
  cache : Cache
  /-- Asynchronous work that waits, in the order in which it was handed over. -/
  pending : List Task
  questions : Nat
  handovers : Nat
  pauses : Nat
  transcript : List Happening

namespace Simulation

def new (scene : Scene) : Simulation where
  scene := scene
  cache := .empty
  pending := []
  questions := 0
  handovers := 0
  pauses := 0
  transcript := []

def record (h : Happening) (s : Simulation) : Simulation :=
  { s with transcript := s.transcript ++ [h] }

def note (thread : Thread) (n : Notice) (s : Simulation) : Simulation :=
  s.record (.noticed n thread)

def reload (thread : Thread) (set : AbilitySet) (s : Simulation) : AbilitySet × Simulation :=
  let (previous, cache) := s.cache.reload set
  (previous, { s with cache := cache }.note thread (.reloaded set.size))

def changeEntity (id : EntityId) (change : EntityChange) (s : Simulation) : Simulation :=
  { s with scene := s.scene.modifyEntity id change.apply }

def changeWorld (change : WorldChange) (s : Simulation) : Simulation :=
  { s with scene := s.scene.modifyWorld change.apply }

def applyEffect (thread : Thread) (s : Simulation) : Effect Ability → Simulation
  | .onEntity id change => s.changeEntity id change
  | .onWorld change => s.changeWorld change
  | .notice n => s.note thread n
  | .reload abilities => (s.reload thread (AbilitySet.ofAbilities abilities)).2

def applyEffects (thread : Thread) (effects : List (Effect Ability)) (s : Simulation) :
    Simulation :=
  effects.foldl (applyEffect thread) s

def runKeyword (thread : Thread) (call : KeywordCall Ability) (context : Context) (s : Simulation) :
    Simulation :=
  let run : BodyRun := ⟨.keywords, call.keyword.name, call.arguments, context, thread⟩
  (s.record (.ran run)).applyEffects thread (call.keyword.body context call.arguments s.scene)

def testCondition (thread : Thread) (call : ConditionCall Ability) (context : Context)
    (s : Simulation) : Bool × Simulation :=
  let answer := call.condition.body context call.arguments s.scene
  let run : BodyRun := ⟨.conditions, call.condition.name, call.arguments, context, thread⟩
  (answer.1, (s.record (.ran run)).applyEffects thread answer.2)

def runTask (thread : Thread) (s : Simulation) : Task → Simulation
  | .call call context => s.runKeyword thread call context
  | .mark isAsync tag => s.record (.marked isAsync tag thread)

end Simulation

end AbilityScript
