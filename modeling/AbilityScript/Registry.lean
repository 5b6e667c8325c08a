import AbilityScript.Ability

namespace AbilityScript

open Text

inductive Function where
  | keyword (keyword : Keyword Ability)
  | condition (condition : Condition Ability)

namespace Function

def kind : Function → Section
  | keyword _ => .keywords
  | condition _ => .conditions

def name : Function → String
  | keyword k => k.name
  | condition c => c.name

end Function

structure Registry where
  keywords : NameMap (Keyword Ability)
  conditions : NameMap (Condition Ability)

structure Registration where
  registry : Registry
  notices : List Notice
  error : Option RegistryError

namespace Registry

def empty : Registry := ⟨.empty, .empty⟩

instance : Inhabited Registry := ⟨empty⟩

def keyword? (r : Registry) (name : String) : Option (Keyword Ability) :=
  r.keywords.get? (lower name)

def condition? (r : Registry) (name : String) : Option (Condition Ability) :=
  r.conditions.get? (lower name)

def contains (r : Registry) (kind : Section) (name : String) : Bool :=
  match kind with
  | .keywords => r.keywords.contains (lower name)
  | .conditions => r.conditions.contains (lower name)

def register (r : Registry) (f : Function) : Except RegistryError Registry :=
  if r.contains f.kind f.name then .error ⟨f.kind, lower f.name⟩
  else
    match f with
    | .keyword k => .ok { r with keywords := r.keywords.insert (lower k.name) k }
    | .condition c => .ok { r with conditions := r.conditions.insert (lower c.name) c }

def registerAll (r : Registry) : List Function → Registration
  | [] => ⟨r, [], none⟩
  | f :: rest =>
    match r.register f with
    | .error e => ⟨r, [], some e⟩
    | .ok r' =>
      let later := r'.registerAll rest
      { later with notices := .registered f.kind (lower f.name) :: later.notices }

end Registry

end AbilityScript
