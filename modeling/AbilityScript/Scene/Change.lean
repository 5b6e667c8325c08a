import AbilityScript.Scene

namespace AbilityScript

open Number

inductive EntityChange where
  | setHealth (health : Binary64)
  | setMaxHealth (maxHealth : Binary64)
  | damage (amount : Binary64)
  | heal (amount : Binary64)
  | setFireTicks (ticks : UInt32)
  | feed (food : Int) (saturation : Binary32)
  | addEffect (effect : PotionEffect)
  | sendMessage (text : String)
  deriving DecidableEq

namespace EntityChange

def apply : EntityChange → Entity → Entity
  | setHealth health => Entity.setHealth health
  | setMaxHealth maxHealth => Entity.setMaxHealth maxHealth
  | damage amount => Entity.damage amount
  | heal amount => Entity.heal amount
  | setFireTicks ticks => Entity.setFireTicks ticks
  | feed food saturation => Entity.feed food saturation
  | addEffect effect => Entity.addEffect effect
  | sendMessage text => Entity.sendMessage text

end EntityChange

inductive WorldChange where
  | setTime (ticks : Nat)
  | advance (ticks : Nat)
  | strike (location : Location)
  deriving DecidableEq

namespace WorldChange

def apply : WorldChange → World → World
  | setTime ticks => World.setTime ticks
  | advance ticks => World.advance ticks
  | strike location => World.strike location

end WorldChange

end AbilityScript
