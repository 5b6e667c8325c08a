import AbilityScript.NameMap

namespace AbilityScript

structure Definition where
  trigger : String
  keywords : List String
  conditions : List String
  timer : Option Nat
  deriving DecidableEq, Repr

abbrev DefinitionFile := NameMap Definition

end AbilityScript
