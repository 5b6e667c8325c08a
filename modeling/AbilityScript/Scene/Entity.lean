import AbilityScript.Scene.Interaction
import AbilityScript.Scene.Potion

namespace AbilityScript

open Number

inductive EntityKind where
  | player (name : String)
  | mob (kind : String)
  deriving DecidableEq, Repr

structure Entity where
  kind : EntityKind
  location : Location
  maxHealth : Binary64
  health : Binary64
  fireTicks : UInt32
  foodLevel : Nat
  saturation : Binary32
  effects : List PotionEffect
  inbox : List String
  deriving DecidableEq

namespace Entity

def player (name : String) (location : Location) : Entity where
  kind := .player name
  location := location
  maxHealth := 20
  health := 20
  fireTicks := 0
  foodLevel := 20
  saturation := 5
  effects := []
  inbox := []

/-- A mob at full health. A maximum below zero, or one that is not a number, counts as zero. -/
def mob (kind : String) (maxHealth : Binary64) (location : Location) : Entity where
  kind := .mob kind
  location := location
  maxHealth := maxHealth.max 0
  health := maxHealth.max 0
  fireTicks := 0
  foodLevel := 0
  saturation := 5
  effects := []
  inbox := []

def isPlayer (e : Entity) : Bool :=
  match e.kind with
  | .player _ => true
  | .mob _ => false

def name (e : Entity) : String :=
  match e.kind with
  | .player name => name
  | .mob kind => kind

def isDead (e : Entity) : Bool :=
  e.health.le 0

def setHealth (health : Binary64) (e : Entity) : Entity :=
  { e with health := (health.max 0).min e.maxHealth }

def setMaxHealth (maxHealth : Binary64) (e : Entity) : Entity :=
  let most := maxHealth.max 0
  { e with maxHealth := most, health := e.health.min most }

def damage (amount : Binary64) (e : Entity) : Entity :=
  { e with health := (e.health - amount).max 0 }

def heal (amount : Binary64) (e : Entity) : Entity :=
  { e with health := (e.health + amount).min e.maxHealth }

def percentOfMax (percent : Binary64) (e : Entity) : Binary64 :=
  e.maxHealth * percent / 100

def setFireTicks (ticks : UInt32) (e : Entity) : Entity :=
  { e with fireTicks := ticks }

def feed (food : Int) (saturation : Binary32) (e : Entity) : Entity :=
  let level := (Int.toNat (min (max (e.foodLevel + food) 0) 20))
  { e with
    foodLevel := level
    saturation := (e.saturation + saturation).clamp 0 (Binary.ofInt level) }

def addEffect (effect : PotionEffect) (e : Entity) : Entity :=
  { e with effects := e.effects.filter (fun old => old.kind != effect.kind) ++ [effect] }

def sendMessage (text : String) (e : Entity) : Entity :=
  if e.isPlayer then { e with inbox := e.inbox ++ [text] } else e

end Entity

end AbilityScript
