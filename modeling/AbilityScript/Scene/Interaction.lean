import AbilityScript.Number.Binary

namespace AbilityScript

open Number

structure Location where
  x : Binary64
  y : Binary64
  z : Binary64
  deriving DecidableEq

namespace Location

def origin : Location := ⟨0, 0, 0⟩

end Location

structure Block where
  material : String
  location : Location
  deriving DecidableEq

inductive Click where
  | leftAir
  | leftBlock
  | rightAir
  | rightBlock
  deriving DecidableEq, Repr

namespace Click

def all : List Click :=
  [leftAir, leftBlock, rightAir, rightBlock]

def name : Click → String
  | leftAir => "left_click_air"
  | leftBlock => "left_click_block"
  | rightAir => "right_click_air"
  | rightBlock => "right_click_block"

def isRight : Click → Bool
  | rightAir | rightBlock => true
  | leftAir | leftBlock => false

def isBlock : Click → Bool
  | leftBlock | rightBlock => true
  | leftAir | rightAir => false

end Click

inductive Hand where
  | main
  | off
  deriving DecidableEq, Repr

namespace Hand

def all : List Hand :=
  [main, off]

def name : Hand → String
  | main => "main_hand"
  | off => "off_hand"

end Hand

end AbilityScript
