import AbilityScript.Scene.Entity
import AbilityScript.Scene.World

namespace AbilityScript

abbrev EntityId := Nat

structure Scene where
  entity : EntityId → Entity
  world : World

namespace Scene

def ofList (entities : List Entity) (world : World) : Scene where
  entity := fun id => entities.getD id (Entity.player "" .origin)
  world := world

def modifyEntity (id : EntityId) (change : Entity → Entity) (s : Scene) : Scene :=
  { s with entity := fun other => if other = id then change (s.entity other) else s.entity other }

def modifyWorld (change : World → World) (s : Scene) : Scene :=
  { s with world := change s.world }

@[simp] theorem entity_modifyEntity (id other : EntityId) (change : Entity → Entity) (s : Scene) :
    (s.modifyEntity id change).entity other =
      if other = id then change (s.entity other) else s.entity other := rfl

end Scene

end AbilityScript
