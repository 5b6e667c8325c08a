import AbilityScript.Arguments
import AbilityScript.Context
import AbilityScript.NameMap
import AbilityScript.Notice
import AbilityScript.Scene.Change

namespace AbilityScript

/-- One thing that a function body does: it changes an entity or the world, leaves a notice, or
replaces the abilities that are in force by others. `α` is the type of abilities. -/
inductive Effect (α : Type) where
  | onEntity (id : EntityId) (change : EntityChange)
  | onWorld (change : WorldChange)
  | notice (notice : Notice)
  | reload (abilities : List α)

structure Keyword (α : Type) where
  name : String
  schema : List Schema
  isAsync : Bool
  body : Context → Arguments → Scene → List (Effect α)

structure Condition (α : Type) where
  name : String
  schema : List Schema
  body : Context → Arguments → Scene → Bool × List (Effect α)

structure KeywordCall (α : Type) where
  keyword : Keyword α
  arguments : Arguments

structure ConditionCall (α : Type) where
  condition : Condition α
  arguments : Arguments

structure Ability where
  name : String
  trigger : Trigger
  keywords : List (KeywordCall Ability)
  conditions : List (ConditionCall Ability)
  timer : Option Nat

namespace KeywordCall

variable {α : Type}

def targeters (c : KeywordCall α) : Capabilities :=
  c.arguments.targeters

def same (c d : KeywordCall α) : Bool :=
  c.keyword.name == d.keyword.name && c.arguments.same d.arguments

def describe (c : KeywordCall α) : String :=
  "ActiveKeyword \x7b keyword: " ++ Text.quoted c.keyword.name ++ ", async: " ++
    toString c.keyword.isAsync ++ ", arguments: " ++ c.arguments.describe ++ " \x7d"

end KeywordCall

namespace ConditionCall

variable {α : Type}

def targeters (c : ConditionCall α) : Capabilities :=
  c.arguments.targeters

def same (c d : ConditionCall α) : Bool :=
  c.condition.name == d.condition.name && c.arguments.same d.arguments

def describe (c : ConditionCall α) : String :=
  "ActiveCondition \x7b condition: " ++ Text.quoted c.condition.name ++ ", arguments: " ++
    c.arguments.describe ++ " \x7d"

end ConditionCall

def sameList {α : Type} (same : α → α → Bool) (xs ys : List α) : Bool :=
  xs.length == ys.length && (xs.zip ys).all fun p => same p.1 p.2

namespace Ability

def targeters (a : Ability) : Capabilities :=
  (a.keywords.map KeywordCall.targeters ++ a.conditions.map ConditionCall.targeters).foldl (· ∪ ·)
    .empty

def same (a b : Ability) : Bool :=
  a.name == b.name && a.trigger == b.trigger && sameList KeywordCall.same a.keywords b.keywords &&
    sameList ConditionCall.same a.conditions b.conditions && a.timer == b.timer

end Ability

abbrev AbilitySet := NameMap Ability

namespace AbilitySet

def add (s : AbilitySet) (a : Ability) : AbilitySet :=
  s.insert a.name a

def ofAbilities (abilities : List Ability) : AbilitySet :=
  abilities.foldl add .empty

def same (s t : AbilitySet) : Bool :=
  sameList (fun a b => a.1 == b.1 && a.2.same b.2) s.entries t.entries

end AbilitySet

end AbilityScript
