namespace AbilityScript

inductive PotionKind where
  | speed
  | slowness
  | haste
  | strength
  | regeneration
  | resistance
  | fireResistance
  | invisibility
  | nightVision
  | poison
  | wither
  | glowing
  deriving DecidableEq, Repr

namespace PotionKind

def all : List PotionKind :=
  [speed, slowness, haste, strength, regeneration, resistance, fireResistance, invisibility,
    nightVision, poison, wither, glowing]

def name : PotionKind → String
  | speed => "speed"
  | slowness => "slowness"
  | haste => "haste"
  | strength => "strength"
  | regeneration => "regeneration"
  | resistance => "resistance"
  | fireResistance => "fire_resistance"
  | invisibility => "invisibility"
  | nightVision => "night_vision"
  | poison => "poison"
  | wither => "wither"
  | glowing => "glowing"

end PotionKind

structure PotionEffect where
  kind : PotionKind
  duration : UInt32
  amplifier : UInt32
  deriving DecidableEq, Repr

end AbilityScript
