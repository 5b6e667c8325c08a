import AbilityScript.Builtin.Keywords

namespace AbilityScript.Builtin

open Number

def isTime : Condition Ability where
  name := "istime"
  schema := [.manual "time of day" fun raw =>
    (TimeOfDay.ofWord? raw).map fun time => .member (TimeOfDay.enumeration.value time)]
  body := fun _ arguments scene =>
    match arguments.member? TimeOfDay.enumeration 0 with
    | some time => (scene.world.timeOfDay == time, [])
    | none => (false, [])

def ofTarget (name : String) (others : List Schema) (holds : Arguments → Entity → Bool) :
    Condition Ability where
  name := name
  schema := livingTarget :: others
  body := fun context arguments scene =>
    match target name arguments context with
    | (none, notices) => (false, notices.map .notice)
    | (some id, _) => (holds arguments (scene.entity id), [])

def isBurning : Condition Ability :=
  ofTarget "isburning" [] fun _ entity => 0 < entity.fireTicks

def healthAbove : Condition Ability :=
  ofTarget "healthabove" [labelled .double "health"] fun arguments entity =>
    match arguments.double? 1 with
    | some threshold => threshold.lt entity.health
    | none => false

def conditions : List (Condition Ability) :=
  [isTime, isBurning, healthAbove]

end AbilityScript.Builtin
