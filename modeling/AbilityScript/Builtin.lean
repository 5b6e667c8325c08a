import AbilityScript.Builtin.Conditions
import AbilityScript.Registry

namespace AbilityScript

namespace Builtin

def functions : List Function :=
  keywords.map .keyword ++ conditions.map .condition

end Builtin

namespace Registry

def withBuiltins : Registration :=
  let done := empty.registerAll Builtin.functions
  { done with
    notices := done.notices ++
      [.builtinsListed done.registry.keywords.names done.registry.conditions.names] }

end Registry

end AbilityScript
