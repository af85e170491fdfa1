import AdFilter.Scriptlet.Abp
import AdFilter.Scriptlet.Native
import AdFilter.Scriptlet.Ubo

/-! Scriptlet calls of any dialect. -/

namespace AdFilter.Scriptlet

/-- The calls that a text stands for in a dialect. -/
def parse? (dialect : Dialect) (text : String) : Option (List ScriptletCall) :=
  match dialect with
  | .native => (Native.parse? text).map fun call => [call]
  | .ubo => (Ubo.parse? text).map fun call => [call]
  | .abp => Abp.parse? text

end AdFilter.Scriptlet
