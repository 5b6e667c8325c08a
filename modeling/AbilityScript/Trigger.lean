import AbilityScript.Targeter

namespace AbilityScript

open Text

inductive Trigger where
  | unbound
  | rightClick
  | leftClick
  | rightClickBlock
  | leftClickBlock
  | rightClickEntity
  | leftClickEntity
  | damageDealt
  | damageTaken
  | consumeItem
  | blockBreak
  | timer
  deriving DecidableEq, Repr

namespace Trigger

def all : List Trigger :=
  [unbound, rightClick, leftClick, rightClickBlock, leftClickBlock, rightClickEntity,
    leftClickEntity, damageDealt, damageTaken, consumeItem, blockBreak, timer]

def identifier : Trigger → String
  | unbound => "none"
  | rightClick => "right-click"
  | leftClick => "left-click"
  | rightClickBlock => "right-click-block"
  | leftClickBlock => "left-click-block"
  | rightClickEntity => "right-click-entity"
  | leftClickEntity => "left-click-entity"
  | damageDealt => "damage-dealt"
  | damageTaken => "damage-taken"
  | consumeItem => "consume-item"
  | blockBreak => "block-break"
  | timer => "timer"

def canonicalLetter (c : Char) : Char :=
  if c == '_' then '-' else c.toLower

def ofText? (text : String) : Option Trigger :=
  let word := String.ofList ((trimChars text.toList).map canonicalLetter)
  all.find? fun t => t.identifier == word

/-- The targeters that a trigger promises: always the player, and the second subject of the
happening where it has one. -/
def targeters : Trigger → Capabilities
  | unbound | rightClick | leftClick | consumeItem | timer => ⟨true, false, false⟩
  | rightClickBlock | leftClickBlock | blockBreak => ⟨true, false, true⟩
  | rightClickEntity | leftClickEntity | damageDealt | damageTaken => ⟨true, true, false⟩

end Trigger

end AbilityScript
