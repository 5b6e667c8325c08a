import AbilityScript.Ability

namespace AbilityScript.Builtin

open Number

def isNonNegative (v : Value) : Bool :=
  match v.asDouble? with
  | some x => (0 : Binary64).le x
  | none => false

def livingTarget : Schema :=
  .targeter (.ofList [.player, .entity])

def nonNegative (kind : PrimitiveKind) (label : String) : Schema :=
  .primitive kind (some isNonNegative) (some label)

def labelled (kind : PrimitiveKind) (label : String) : Schema :=
  .primitive kind none (some label)

def target (function : String) (arguments : Arguments) (context : Context) :
    Option EntityId × List Notice :=
  match arguments.targeter? 0 with
  | none => (none, [])
  | some t =>
    match context.entity? t with
    | some id => (some id, [])
    | none => (none, [.noTarget t function context.ability context.trigger])

def onTarget (name : String) (others : List Schema)
    (change : Arguments → Entity → Option EntityChange) : Keyword Ability where
  name := name
  schema := livingTarget :: others
  isAsync := false
  body := fun context arguments scene =>
    match target name arguments context with
    | (none, notices) => notices.map .notice
    | (some id, _) => ((change arguments (scene.entity id)).map (Effect.onEntity id)).toList

def damage : Keyword Ability :=
  onTarget "damage" [nonNegative .double "damage"] fun arguments _ =>
    (arguments.double? 1).map .damage

def heal : Keyword Ability :=
  onTarget "heal" [nonNegative .double "health"] fun arguments _ =>
    (arguments.double? 1).map .heal

def setHealth : Keyword Ability :=
  onTarget "sethealth" [labelled .double "health value"] fun arguments _ =>
    (arguments.double? 1).map .setHealth

def healPercent : Keyword Ability :=
  onTarget "healpercent" [labelled .double "healing"] fun arguments entity =>
    (arguments.double? 1).map fun percent =>
      .setHealth (entity.health + entity.percentOfMax percent)

def damagePercent : Keyword Ability :=
  onTarget "damagepercent" [nonNegative .double "damage"] fun arguments entity =>
    (arguments.double? 1).map fun percent => .damage (entity.percentOfMax percent)

def count? (n : Int) : Option UInt32 :=
  if 0 ≤ n ∧ n < UInt32.size then some (UInt32.ofNat n.toNat) else none

def kindle : Keyword Ability :=
  onTarget "kindle" [nonNegative (.whole .integer) "duration"] fun arguments _ =>
    ((arguments.whole? 1).bind count?).map .setFireTicks

def feed : Keyword Ability :=
  { onTarget "feed" [] fun arguments _ => do
      let food ← arguments.whole? 1
      let saturation ← arguments.double? 2
      if Width.Holds .integer food then some (.feed food saturation.convert) else none with
    schema := [.targeter (.ofList [.player]), labelled (.whole .integer) "food",
      labelled .double "saturation"] }

def effect : Keyword Ability :=
  onTarget "effect"
    [.choice PotionKind.enumeration.spellings (some "potion effect type"),
      nonNegative (.whole .integer) "duration", nonNegative (.whole .integer) "level"]
    fun arguments _ => do
      let kind ← arguments.member? PotionKind.enumeration 1
      let duration ← (arguments.whole? 2).bind count?
      let amplifier ← (arguments.whole? 3).bind count?
      some (.addEffect ⟨kind, duration, amplifier⟩)

def lightning : Keyword Ability where
  name := "lightning"
  schema := [.targeter (.ofList Targeter.all)]
  isAsync := false
  body := fun context arguments scene =>
    match arguments.targeter? 0 with
    | none => []
    | some t =>
      match context.location? scene t with
      | some location => [.onWorld (.strike location)]
      | none => [.notice (.noLocation t context.ability)]

def message : Keyword Ability :=
  { onTarget "message" [labelled .string "message"] fun arguments _ =>
      (arguments.string? 1).map .sendMessage with
    isAsync := true }

def keywords : List (Keyword Ability) :=
  [damage, heal, setHealth, healPercent, damagePercent, kindle, feed, effect, lightning, message]

end AbilityScript.Builtin
