import AbilityScript.Datum
import AbilityScript.Definition

namespace AbilityScript

namespace Definition

def timer? : Option Datum → Option (Option Nat)
  | none => some none
  | some .null => some none
  | some d => d.count?.map some

def ofDatum? (surplus : Bool) (d : Datum) : Option Definition :=
  match d.record? surplus ["trigger", "keywords", "conditions", "timer"] with
  | some [trigger, keywords, conditions, timer] => do
    let trigger ← trigger.bind Datum.text?
    let keywords ← Datum.orElse [] Datum.texts? keywords
    let conditions ← Datum.orElse [] Datum.texts? conditions
    let timer ← timer? timer
    some ⟨trigger, keywords, conditions, timer⟩
  | _ => none

def toDatum (d : Definition) : Datum :=
  .table ([("trigger", .text d.trigger), ("keywords", .list (d.keywords.map .text)),
    ("conditions", .list (d.conditions.map .text))] ++
    (d.timer.map fun p => ("timer", Datum.whole p)).toList)

end Definition

namespace DefinitionFile

def namesOfDatum? : Datum → Option DefinitionFile
  | .table entries =>
    (entries.mapM fun entry => (Definition.ofDatum? true entry.2).map fun d => (entry.1, d)).map
      NameMap.ofList
  | _ => none

def ofDatum? (d : Datum) : Option DefinitionFile :=
  match d.record? true ["abilities"] with
  | some [abilities] => Datum.orElse .empty namesOfDatum? abilities
  | _ => none

end DefinitionFile

end AbilityScript
