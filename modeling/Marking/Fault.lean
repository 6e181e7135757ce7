/-
# Marking.Fault -- everything that can go wrong, by cause

A `Fault` names a cause with its data.  `Fault.errorClass` puts it into a class of
errors, `Fault.message` words it.  Three groups matter to the engine: an
`injection` fault is recoverable and the work is tried again, a `structural` one
spoils a single declaration, and every other one ends the operation that met it.

Classes form a tree (`ErrorClass.parent?`); code that reacts to errors reacts to a
class and everything below it (`Fault.isA`).
-/
import Marking.Key

set_option autoImplicit false

namespace Marking

inductive ErrorClass where
  | general
  | injection
  | dependencyCheck
  | structural
  | unknownTarget
  | malformed
  | cyclic
  | ruleCycle
  | incomplete
  | handlerMissing
  | handlerPresent
  | value
  | type
  | lookup
  | position
  | key
  | runtime
  | recursion
  | importing
  | moduleMissing
  | missingMember
  | overflow
  | name
  | system
  | fileMissing
  | directory
  | notDirectory
  | document
  | markup
  deriving DecidableEq, Repr

namespace ErrorClass

/-- The published name of a class. -/
def label : ErrorClass → String
  | general => "MarkgenError"
  | injection => "InjectionFailure"
  | dependencyCheck => "DependencyCheckError"
  | structural => "StructuralError"
  | unknownTarget => "UnknownTargetError"
  | malformed => "MalformedDeclarationError"
  | cyclic => "CyclicDependencyError"
  | ruleCycle => "RuleCycleError"
  | incomplete => "ProcessingIncompleteError"
  | handlerMissing => "HandlerNotFoundError"
  | handlerPresent => "HandlerAlreadyRegisteredError"
  | value => "ValueError"
  | type => "TypeError"
  | lookup => "LookupError"
  | position => "IndexError"
  | key => "KeyError"
  | runtime => "RuntimeError"
  | recursion => "RecursionError"
  | importing => "ImportError"
  | moduleMissing => "ModuleNotFoundError"
  | missingMember => "AttributeError"
  | overflow => "OverflowError"
  | name => "NameError"
  | system => "OSError"
  | fileMissing => "FileNotFoundError"
  | directory => "IsADirectoryError"
  | notDirectory => "NotADirectoryError"
  | document => "YAMLError"
  | markup => "MarkupError"

/-- The class directly above. -/
def parent? : ErrorClass → Option ErrorClass
  | injection | dependencyCheck | structural | cyclic | ruleCycle | incomplete => some general
  | unknownTarget | malformed => some structural
  | handlerMissing => some key
  | handlerPresent => some value
  | key | position => some lookup
  | moduleMissing => some importing
  | recursion => some runtime
  | fileMissing | directory | notDirectory => some system
  | _ => none

/-- The classes above, the nearest first; no chain has more than three. -/
def ancestors (c : ErrorClass) : List ErrorClass :=
  match c.parent? with
  | none => []
  | some p =>
    match p.parent? with
    | none => [p]
    | some q =>
      match q.parent? with
      | none => [p, q]
      | some r => [p, q, r]

/-- `c` is `d` or lies below it. -/
def isA (c d : ErrorClass) : Bool := c == d || c.ancestors.contains d

end ErrorClass

/-- A recoverable failure of one piece of work: why, and of which unit. -/
structure Failure where
  message : String
  key : Option UnitKey := none
  deriving DecidableEq, Repr

def Failure.text (f : Failure) : String :=
  match f.key with
  | none => f.message
  | some k => k.name ++ ": " ++ f.message

/-- The failure with its key filled in where it names none. -/
def Failure.withKey (f : Failure) (k : UnitKey) : Failure :=
  { f with key := f.key <|> some k }

/-- What is wrong with a declaration or a marker. -/
inductive Defect where
  | other
  | unknownTarget
  | malformed
  deriving DecidableEq, Repr

/-- A declaration or marker that cannot be processed. -/
structure StructuralFault where
  defect : Defect := .other
  message : String
  subject : String := ""
  deriving DecidableEq, Repr

def StructuralFault.text (s : StructuralFault) : String :=
  if s.subject.isEmpty then s.message else s.subject ++ ": " ++ s.message

/-- The classes of errors that foreign code raises with a text of its own; the text of a
key error is the expression of the key. -/
inductive ForeignError where
  | general
  | value
  | type
  | key
  | lookup
  | runtime
  | importing
  deriving DecidableEq, Repr

inductive Fault where
  /-- A value that names no element kind. -/
  | unknownKind (shown : String)
  | noQualifiedName (shown : String)
  | emptyKeyName
  | noUnitKey (shown : String)
  | notIterable (typeName : String)
  | unhashable (typeName : String)
  | unordered (left right : String)
  /-- A date and a date with a time of day. -/
  | unorderedDates
  /-- Times of which only one has a known shift. -/
  | unorderedOffsets
  | missingAttribute (typeName member : String)
  | missingMarkerAttribute (marker member : String)
  | cannotAttach (marker target : String)
  /-- An annotation without notes. -/
  | annotationWithoutNotes
  /-- A marker attribute whose name is taken. -/
  | reservedAttribute (name : String)
  | injection (failure : Failure)
  /-- The text is fixed when the fault is met; the key may be filled in later. -/
  | dependencyCheck (text : String) (key : Option UnitKey) (cause : Option ErrorClass)
  | structural (fault : StructuralFault)
  | cyclic (cycles : List (List UnitKey))
  | ruleCycle (markers : List String)
  | incomplete (failures : List (String × List Failure)) (pending : List (String × List UnitKey))
  | handlerMissing (shown : String)
  | handlerPresent (shown : String)
  | notMarkerType (shown : String)
  | notHandler (shown marker : String)
  /-- A handler class that lacks a method. -/
  | abstractHandler (className method : String)
  | keyMismatch (source target : UnitKey)
  | noSuchUnit (shown : String)
  | reentered
  | resetWhileRunning
  /-- Work that goes on longer than it was given time for. -/
  | endless
  | unknownPolicy (shown : String)
  | unknownSettings (names : List String)
  | settingNameNotText (typeName : String)
  | unexpectedSetting (name : String)
  /-- A change by a name that stands for the settings themselves. -/
  | settingsGivenTwice
  | packagesShape
  | policyChoice
  | testModeShape
  | tooFewRounds (rounds : String)
  | badInteger (base : Nat) (shown : String)
  | badFloat (shown : String)
  /-- A character is asked for behind the end of a text. -/
  | noSuchPosition
  | tooManyDigits (digits : Nat)
  /-- A whole number with more digits than a text may have. -/
  | unwritableInteger
  | tooLargeForDouble
  /-- A number that no character has. -/
  | noCharacter (code : Nat)
  /-- A text is wanted, and the value is of another type. -/
  | notText (typeName : String)
  /-- Parts nested without an end. -/
  | tooDeep
  | notANumber (typeName : String)
  | infiniteInteger
  | undefinedInteger
  | notAMapping (path : String)
  | malformedDocument
  | noSuchFile (path : String)
  | isDirectory (path : String)
  /-- A path leads through something that is no directory. -/
  | notDirectory (path : String)
  | nameTooLong (path : String)
  /-- A value without a length. -/
  | noLength (typeName : String)
  | nullInPath
  | noSuchModule (name : String)
  /-- A module below one that is no package. -/
  | notAPackage (name parent : String)
  /-- A name that a module does not have, perhaps because its body is still running. -/
  | missingName (module name : String) (running : Bool)
  | emptyModuleName
  | relativeModuleName (name : String)
  /-- A tag in a text that ends no style. -/
  | strayTag (body : String) (position : Nat)
  | unresolvedName (name : String)
  | foreign (error : ForeignError) (text : String)
  deriving DecidableEq, Repr

namespace Fault

def errorClass : Fault → ErrorClass
  | unknownKind _ | keyMismatch .. | unknownPolicy _ | unknownSettings _ | packagesShape
  | policyChoice | testModeShape | tooFewRounds _ | badInteger .. | badFloat _ | tooManyDigits _
  | unwritableInteger | undefinedInteger | notAMapping _ | emptyModuleName | nullInPath => .value
  | noQualifiedName _ | emptyKeyName | noUnitKey _ | notIterable _ | unhashable _ | unordered ..
  | unorderedDates | unorderedOffsets | cannotAttach .. | annotationWithoutNotes
  | reservedAttribute _ | notMarkerType _ | notHandler .. | abstractHandler ..
  | settingNameNotText _ | unexpectedSetting _ | settingsGivenTwice | notANumber _
  | relativeModuleName _ | notText _ | noLength _ => .type
  | missingAttribute .. | missingMarkerAttribute .. | missingName .. => .missingMember
  | injection _ => .injection
  | dependencyCheck .. => .dependencyCheck
  | structural s =>
    match s.defect with
    | .other => .structural
    | .unknownTarget => .unknownTarget
    | .malformed => .malformed
  | cyclic _ => .cyclic
  | ruleCycle _ => .ruleCycle
  | incomplete .. => .incomplete
  | handlerMissing _ => .handlerMissing
  | handlerPresent _ => .handlerPresent
  | noSuchUnit _ => .key
  | reentered | resetWhileRunning | endless => .runtime
  | infiniteInteger | tooLargeForDouble => .overflow
  | noCharacter code => if code < Nat.pow 2 31 then .value else .overflow
  | tooDeep => .recursion
  | noSuchPosition => .position
  | malformedDocument => .document
  | noSuchFile _ => .fileMissing
  | isDirectory _ => .directory
  | notDirectory _ => .notDirectory
  | nameTooLong _ => .system
  | noSuchModule _ | notAPackage .. => .moduleMissing
  | strayTag .. => .markup
  | unresolvedName _ => .name
  | foreign e _ =>
    match e with
    | .general => .general
    | .value => .value
    | .type => .type
    | .key => .key
    | .lookup => .lookup
    | .runtime => .runtime
    | .importing => .importing

def isA (f : Fault) (c : ErrorClass) : Bool := f.errorClass.isA c

/-- How many pieces of work were never done. -/
def pendingCount (pending : List (String × List UnitKey)) : Nat :=
  pending.foldl (fun count p => count + p.2.length) 0

/-- Marker by marker what is left, each followed by its failures. -/
def incompleteLines (failures : List (String × List Failure))
    (pending : List (String × List UnitKey)) : List String :=
  pending.flatMap fun (marker, keys) =>
    ("  " ++ marker ++ ": " ++ ", ".intercalate (keys.map UnitKey.name)) ::
      ((failures.lookup marker).getD []).map fun f => "    " ++ f.text

def message : Fault → String
  | unknownKind shown => shown ++ " is not a valid element kind"
  | noQualifiedName shown => "Cannot derive a qualified name from " ++ shown
  | emptyKeyName => "A unit key name must not be empty"
  | noUnitKey shown => "Cannot derive a unit key from " ++ shown
  | notIterable t => "'" ++ t ++ "' object is not iterable"
  | unhashable t => "unhashable type: '" ++ t ++ "'"
  | unordered a b => "'<' not supported between instances of '" ++ a ++ "' and '" ++ b ++ "'"
  | unorderedDates => "can't compare datetime.datetime to datetime.date"
  | unorderedOffsets => "can't compare offset-naive and offset-aware datetimes"
  | missingAttribute t a => "'" ++ t ++ "' object has no attribute '" ++ a ++ "'"
  | missingMarkerAttribute m a =>
    Text.quoted m ++ " marker has no attribute " ++ Text.quoted a
  | cannotAttach m t => "Cannot attach " ++ m ++ " to " ++ t
  | annotationWithoutNotes =>
    "Annotated[...] should be used with at least two arguments (a type and an annotation)."
  | reservedAttribute a => "Marker.__init__() got multiple values for argument '" ++ a ++ "'"
  | injection f => f.text
  | dependencyCheck text _ _ => text
  | structural s => s.text
  | cyclic cycles =>
    "Circular unit dependency detected: " ++
      "; ".intercalate (cycles.map fun c => " <-> ".intercalate (c.map UnitKey.name))
  | ruleCycle markers =>
    "Ordering rules form a cycle between markers: " ++ ", ".intercalate markers
  | incomplete failures pending =>
    "\n".intercalate
      (("Processing incomplete (" ++ toString (pendingCount pending) ++
          " unprocessed declaration(s)):") :: incompleteLines failures pending)
  | handlerMissing m =>
    Text.quoted ("No handler is registered for marker " ++ m ++
      ". Register one with HandlerRegistry.register() or install a package that publishes it " ++
      "as an entry-point.")
  | handlerPresent m =>
    "Marker " ++ m ++
      " already has a registered handler. Deregister the existing handler first."
  | notMarkerType shown =>
    "Cannot register a handler for " ++ shown ++ ": it must be a subclass of Marker."
  | notHandler shown m =>
    "Cannot register " ++ shown ++ " for @" ++ m ++ ": it must be an instance of MarkerHandler."
  | abstractHandler c m =>
    "Can't instantiate abstract class " ++ c ++ " with abstract method " ++ m
  | keyMismatch a b => "Cannot merge unit " ++ a.name ++ " into " ++ b.name
  | noSuchUnit shown => shown
  | reentered => "ProcessorFactory.process() is not reentrant"
  | resetWhileRunning => "Cannot reset a ProcessorFactory while it is processing"
  | endless => "The work does not come to an end"
  | unknownPolicy shown => shown ++ " is not a valid MergePolicy"
  | unknownSettings names => "Unknown configuration key(s): " ++ ", ".intercalate names
  | settingNameNotText t => "sequence item 0: expected str instance, " ++ t ++ " found"
  | unexpectedSetting n =>
    "ProcessorConfig.__init__() got an unexpected keyword argument '" ++ n ++ "'"
  | settingsGivenTwice =>
    "ProcessorConfig.with_overrides() got multiple values for argument 'self'"
  | packagesShape => "packages must be a list of package names"
  | policyChoice => "merge_policy must be one of: union, first_wins"
  | testModeShape => "test_mode must be true, false or omitted"
  | tooFewRounds n => "max_rounds must be at least 1, got " ++ n
  | badInteger base shown =>
    "invalid literal for int() with base " ++ toString base ++ ": " ++ shown
  | badFloat shown => "could not convert string to float: " ++ shown
  | noSuchPosition => "string index out of range"
  | tooManyDigits n =>
    "Exceeds the limit (4300 digits) for integer string conversion: value has " ++ toString n ++
      " digits; use sys.set_int_max_str_digits() to increase the limit"
  | unwritableInteger =>
    "Exceeds the limit (4300 digits) for integer string conversion; " ++
      "use sys.set_int_max_str_digits() to increase the limit"
  | tooLargeForDouble => "int too large to convert to float"
  | noCharacter code =>
    if code < Nat.pow 2 31 then "chr() arg not in range(0x110000)"
    else "Python int too large to convert to C int"
  | notText t => "expected string or bytes-like object, got '" ++ t ++ "'"
  | tooDeep => "maximum recursion depth exceeded"
  | notANumber t =>
    "int() argument must be a string, a bytes-like object or a real number, not '" ++ t ++ "'"
  | infiniteInteger => "cannot convert float infinity to integer"
  | undefinedInteger => "cannot convert float NaN to integer"
  | notAMapping path => path ++ ": configuration must be a YAML mapping"
  | malformedDocument => "the document is not well formed"
  | notDirectory path => "[Errno 20] Not a directory: " ++ Text.quoted path
  | nameTooLong path => "[Errno 36] File name too long: " ++ Text.quoted path
  | noLength t => "object of type '" ++ t ++ "' has no len()"
  | nullInPath => "embedded null byte"
  | isDirectory path => "[Errno 21] Is a directory: " ++ Text.quoted path
  | noSuchFile path => "[Errno 2] No such file or directory: " ++ Text.quoted path
  | noSuchModule n => "No module named " ++ Text.quoted n
  | notAPackage n parent =>
    "No module named " ++ Text.quoted n ++ "; " ++ Text.quoted parent ++ " is not a package"
  | missingName m n running =>
    (if running then "partially initialized module '" else "module '") ++ m ++
      "' has no attribute '" ++ n ++
      (if running then "' (most likely due to a circular import)" else "'")
  | emptyModuleName => "Empty module name"
  | relativeModuleName n =>
    "the 'package' argument is required to perform a relative import for " ++ Text.quoted n
  | strayTag body position =>
    "closing tag '[" ++ body ++ "]' at position " ++ toString position ++
      (if body == "/" then " has nothing to close" else " doesn't match any open tag")
  | unresolvedName n => "name " ++ Text.quoted n ++ " is not defined"
  | foreign _ text => text

/-- The fault with its unit key replaced; texts that are already fixed stay. -/
def withKey (k : Option UnitKey) : Fault → Fault
  | injection f => injection { f with key := k }
  | dependencyCheck text _ cause => dependencyCheck text k cause
  | f => f

/-- A dependency check that failed, worded when it is met. -/
def ofDependencyCheck (message : String) (key : Option UnitKey) (cause : Option ErrorClass) :
    Fault :=
  dependencyCheck (Failure.text ⟨message, key⟩) key cause

end Fault

end Marking
