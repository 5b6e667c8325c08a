import AbilityScript.Scene
import AbilityScript.Trigger

namespace AbilityScript

inductive ContextKind where
  | base
  | interact (click : Click) (hand : Hand)
  | interactBlock (click : Click) (hand : Hand) (block : Block)
  | entity (id : EntityId)
  | block (block : Block)
  deriving DecidableEq

structure Context where
  ability : String
  trigger : Trigger
  player : EntityId
  kind : ContextKind := .base
  deriving DecidableEq

namespace ContextKind

def capabilities : ContextKind → Capabilities
  | base | interact .. => ⟨true, false, false⟩
  | interactBlock .. | block _ => ⟨true, false, true⟩
  | entity _ => ⟨true, true, false⟩

def entity? : ContextKind → Option EntityId
  | entity id => some id
  | _ => none

def block? : ContextKind → Option Block
  | interactBlock _ _ b => some b
  | block b => some b
  | _ => none

def click? : ContextKind → Option Click
  | interact c _ => some c
  | interactBlock c _ _ => some c
  | _ => none

def hand? : ContextKind → Option Hand
  | interact _ h => some h
  | interactBlock _ h _ => some h
  | _ => none

end ContextKind

namespace Context

def capabilities (c : Context) : Capabilities :=
  c.kind.capabilities

def entity? (c : Context) : Targeter → Option EntityId
  | .player => some c.player
  | .entity => c.kind.entity?
  | .block => none

def location? (c : Context) (s : Scene) : Targeter → Option Location
  | .player => some (s.entity c.player).location
  | .entity => c.kind.entity?.map fun id => (s.entity id).location
  | .block => c.kind.block?.map Block.location

end Context

end AbilityScript
