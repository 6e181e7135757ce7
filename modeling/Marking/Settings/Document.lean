/-
# Marking.Settings.Document -- settings in a document

A document of settings is a mapping of the entries that settings have; an empty
document stands for the usual settings.
-/
import Marking.Settings
import Marking.Yaml
import Marking.Yaml.Writer

set_option autoImplicit false

namespace Marking.Settings

/-- The value of an entry of a document of settings.  Each package is read by itself; of
the entries that are not read as texts only the outline matters. -/
def valueAt (d : Yaml.Document) (key : Value) (place : Nat) : Value :=
  match key with
  | .str "packages" => d.itemsAt place
  | .str "handler_group" => d.valueAt place
  | _ => d.outlineAt place

def read (path : String) (text : String) : Except Fault Settings :=
  (Yaml.read text).bind fun d =>
    match d.part d.top with
    | .leaf .null => ofValue .null
    | .dict entries =>
      ofValue (.dict (entries.map fun e =>
        let key := d.valueAt e.1
        (key, valueAt d key e.2)))
    | _ => .error (.notAMapping path)

def write (s : Settings) : String := Yaml.write (Json.ofValue s.toValue)

end Marking.Settings
