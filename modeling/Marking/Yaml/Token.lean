/-
# Marking.Yaml.Token -- the parts of a document

Tokens are the indicators of a document, its scalars, and the beginnings and ends of
blocks, which follow from the indentation.
-/
import Marking.Fault

set_option autoImplicit false

namespace Marking.Yaml

/-- A tag as it is written: a handle, unless it is given in full, and a suffix. -/
structure WrittenTag where
  handle : Option String
  suffix : String
  deriving DecidableEq, Repr

inductive Token where
  /-- A directive about the version; the part before the point. -/
  | version (major : Nat)
  /-- A directive that gives a handle a meaning. -/
  | handle (handle meaning : String)
  | otherDirective
  | documentStart
  | documentEnd
  | streamEnd
  | sequenceStart
  | mappingStart
  | blockEnd
  | flowSequenceStart
  | flowSequenceEnd
  | flowMappingStart
  | flowMappingEnd
  | item
  | flowEntry
  | key
  | value
  | reference (name : String)
  | anchor (name : String)
  | tag (t : WrittenTag)
  /-- A scalar; `plain` says that it stands without quotes. -/
  | scalar (text : String) (plain : Bool)
  /-- A text that cannot be made ends the tokens. -/
  | broken (fault : Fault)
  deriving DecidableEq, Repr

end Marking.Yaml
