/-
# Marking.CommandLine -- the commands

`version` and `handlers` inform, `plan` discovers and orders, `run` does the work and
reports.  Settings come from a document and are changed by switches; handlers come from
what packages publish in the group that the settings name.

A command that is typed wrong ends with exit code 2.  One that cannot do its work, or
leaves work undone, ends with 1, and so does one that meets a fault it does not handle;
such a fault is part of the outcome.
-/
import Marking.CommandLine.Console
import Marking.CommandLine.Switch
import Marking.Engine
import Marking.Folder
import Marking.Json.Writer
import Marking.Registry.Published
import Marking.Settings.Document

set_option autoImplicit false

namespace Marking.CommandLine

def version : String := "0.1.0"

inductive Command where
  | version
  | handlers
  | plan
  | run
  deriving DecidableEq, Repr

namespace Command

def name : Command → String
  | version => "version"
  | handlers => "handlers"
  | plan => "plan"
  | run => "run"

/-- What a command does, in one line. -/
def purpose : Command → String
  | version => "Show detailed version information."
  | handlers => "List handlers published by installed packages, in discovery order."
  | plan => "Discover and order units without processing them."
  | run => "Discover, order and process units."

def all : List Command := [handlers, plan, run, version]

def ofName? (s : String) : Option Command := all.find? fun c => c.name == s

def help : Switch := ⟨"--help", none, .shows .help⟩

def config : Switch := ⟨"--config", none, .config⟩

/-- The switches of commands that work on packages. -/
def packageSwitches : List Switch :=
  [config, ⟨"--test-mode", none, .testMode true⟩, ⟨"--no-test-mode", none, .testMode false⟩,
   ⟨"--strict", none, .strict⟩]

def grammar : Command → Grammar
  | version => ⟨[help], true⟩
  | handlers => ⟨[config, help], true⟩
  | plan => ⟨packageSwitches ++ [help], true⟩
  | run => ⟨packageSwitches ++ [⟨"--format", none, .format⟩, help], true⟩

def takesPackages : Command → Bool
  | plan | run => true
  | _ => false

end Command

/-- The switches in front of the command. -/
def grammar : Grammar :=
  ⟨[⟨"--version", none, .shows .version⟩, ⟨"--verbose", some 'v', .louder⟩, Command.help], false⟩

/-- The forms of a report. -/
inductive Format where
  | table
  | json
  | yaml
  deriving DecidableEq, Repr

namespace Format

def words : List (String × Format) := [("table", table), ("json", json), ("yaml", yaml)]

def ofWord? (s : String) : Option Format := words.lookup (Text.fold s)

end Format

/-- What was typed, understood. -/
inductive Invocation where
  | notice (n : Notice) (command : Option Command)
  | command (c : Command) (format : Format) (arguments : Arguments)
  deriving Repr

/-- The form of the report that was asked for. -/
def formatOf (a : Arguments) : Except UsageFault Format :=
  match a.format with
  | none => .ok .table
  | some word =>
    match Format.ofWord? word with
    | some f => .ok f
    | none => .error (.badChoice "--format" word (Format.words.map Prod.fst))

/-- Understands what stands behind the name of a command. -/
def Command.understand (c : Command) (words : List String) : Except UsageFault Invocation := do
  let a ← c.grammar.read words {}
  match a.notice with
  | some n => .ok (.notice n (some c))
  | none =>
    let format ← formatOf a
    if !c.takesPackages && !a.words.isEmpty then .error (.extraWords a.words)
    else .ok (.command c format a)

/-- A word that looks like a switch where a command should be. -/
def looksLikeSwitch (word : String) : Bool :=
  match word.toList with
  | [] => false
  | c :: _ => !(c.isAlphanum || 127 < c.toNat)

def understand (words : List String) : Except UsageFault Invocation :=
  if words.isEmpty then .ok (.notice .help none)
  else
    match grammar.read words {} with
    | .error f => .error f
    | .ok a =>
      match a.notice, a.words with
      | some n, _ => .ok (.notice n none)
      | none, [] => .error .commandMissing
      | none, name :: rest =>
        match Command.ofName? name with
        | some c => c.understand rest
        | none =>
          if looksLikeSwitch name then .ok (.notice .help none) else .error (.noSuchCommand name)

/-- What a command works on. -/
structure Surroundings (σ : Type) where
  /-- The word of the environment on test mode. -/
  environment : Option String := none
  /-- The files that can be read. -/
  folder : Folder := {}
  codebase : Codebase := {}
  published : List (EntryPoint σ) := []

/-- What a command leaves behind. -/
structure Outcome where
  exit : Nat := 0
  said : List Line := []
  complained : List String := []
  /-- How the command is to be typed, after a mistake in typing it. -/
  usage : List String := []
  /-- The fault that the command did not handle. -/
  unhandled : Option Fault := none

/-- How a command is typed. -/
def usageLine (c : Option Command) : String :=
  match c with
  | none => "Usage: markgen [OPTIONS] COMMAND [ARGS]..."
  | some c =>
    "Usage: markgen " ++ c.name ++ " [OPTIONS]" ++
      (if c.takesPackages then " [PACKAGES]..." else "")

/-- What is said about the program or one of its commands. -/
def noticeLines (n : Notice) (c : Option Command) : List String :=
  match n, c with
  | .version, _ => ["markgen, version " ++ version]
  | .help, none =>
    [usageLine none, "Marker-driven dependency resolution and code-generation scheduling.",
     "Options:"] ++ grammar.switches.map Switch.long ++ ["Commands:"] ++
      Command.all.map fun c => c.name ++ " " ++ c.purpose
  | .help, some c =>
    [usageLine (some c), c.purpose, "Options:"] ++ c.grammar.switches.map Switch.long

/-! ## Parts of commands -/

/-- Faults of settings that a command reports; it does not handle others. -/
def isConfigFault (f : Fault) : Bool := f.isA .value || f.isA .document || f.isA .system

def settingsFor (folder : Folder) (path : Option String) : Talk Settings := do
  match path with
  | none => return {}
  | some path =>
    match (folder.read path).bind (Settings.read path) with
    | .ok s => return s
    | .error f =>
      if f.isA .fileMissing then Talk.fail ("Config file not found: " ++ path)
      else if isConfigFault f then Talk.fail ("Invalid config " ++ path ++ ": " ++ f.message)
      else throw (.fault f)

variable {σ : Type}

/-- The registry of what is published in a group. -/
def registryFor (s : Surroundings σ) (group : String) : Talk (Registry σ) := do
  let (result, registry, _) := ({} : Registry σ).loadGroup group s.published
  let _ ← Talk.settled result
  return registry

/-- The engine of a command, with its settings changed by switches. -/
def engineFor (s : Surroundings σ) (a : Arguments) : Talk (Engine σ) := do
  let base ← settingsFor s.folder a.config
  let settings ← Talk.settled (base.withOverrides
    { packages := if a.words.isEmpty then none else some a.words
      testMode := a.testMode
      strictOrder := if a.strict then some true else none })
  if settings.packages.isEmpty then
    Talk.fail "No packages to scan. Pass PACKAGE or set 'packages' in the config."
  let registry ← registryFor s settings.handlerGroup
  if registry.size == 0 then
    Talk.complain ("[yellow]Warning:[/yellow] No handlers found in entry-point group " ++
      Text.quoted settings.handlerGroup ++ ".")
  return { Engine.ofSettings settings with registry }

/-- Faults that a command reports as errors. -/
def isReported (f : Fault) : Bool := f.isA .general || f.isA .importing

/-- The result of a run, or the end of the command. -/
def reported {α : Type} : Except Fault α → Talk α
  | .ok a => pure a
  | .error f => if isReported f then Talk.fail f.message else throw (.fault f)

/-- Texts in a row, or a hyphen for none. -/
def listed (texts : List String) : String :=
  let s := ", ".intercalate texts
  if s.isEmpty then "-" else s

def scannerOf (s : Surroundings σ) : Scanner := .modules { codebase := s.codebase }

/-! ## The commands -/

def sayVersion : Talk Unit := Talk.say ("[bold]markgen[/bold] v" ++ version)

def handlerRow (r : Registry σ) (position : Nat) (t : MarkerType) : Talk (List String) := do
  let rules ← Talk.settled (r.rulesFor (.markerType t))
  let h ← Talk.settled (r.get (.markerType t))
  return [toString position, "@" ++ t.name, h.typeName, listed (rules.map Rule.text)]

/-- Lists the handlers in the order that the rules demand. -/
def sayHandlers (s : Surroundings σ) (a : Arguments) : Talk Unit := do
  let settings ← settingsFor s.folder a.config
  let registry ← registryFor s settings.handlerGroup
  if registry.size == 0 then
    Talk.say "[bold]Registered handlers:[/bold]"
    Talk.say "  (No handlers registered. Install a handler package to see entries here.)"
  else
    match registry.markerTypes.1 with
    | .error f => if f.isA .ruleCycle then Talk.fail f.message else throw (.fault f)
    | .ok types =>
      let rows ← types.zipIdx.mapM fun (t, i) => handlerRow registry (i + 1) t
      Table.say ⟨"Registered handlers", ["#", "Marker", "Handler", "Rules"], rows⟩

def namesOf (ks : List UnitKey) : List String := (UnitKey.sorted ks).map UnitKey.name

def unitRow (forced : List UnitKey) (position : Nat) (u : WorkUnit (Delegate σ)) : List String :=
  let note := if forced.contains u.key then " [yellow](forced)[/yellow]" else ""
  [toString position, u.key.name ++ note, toString u.items.length, listed (namesOf u.needs)]

def sayStructural (faults : List StructuralFault) : Talk Unit :=
  faults.forM fun f => Talk.say ("[red]Structural:[/red] " ++ f.text)

def sayPlan (p : Plan σ) : Talk Unit := do
  Table.say ⟨"Processing order", ["#", "Unit", "Items", "Depends on"],
    p.schedule.order.zipIdx.map fun (u, i) => unitRow p.schedule.forced (i + 1) u⟩
  p.schedule.cycles.forM fun c =>
    Talk.say ("[yellow]Cycle:[/yellow] " ++ " <-> ".intercalate (c.map UnitKey.name))
  p.missing.forM fun (k, ks) =>
    Talk.say
      ("[yellow]Missing:[/yellow] " ++ k.name ++ " requires " ++ ", ".intercalate (namesOf ks))
  sayStructural p.structural

def entryRow (e : EntrySummary) : List String :=
  let failures := "\n".intercalate (e.errors.map Failure.text)
  ["@" ++ e.marker, e.state.word, toString e.passes, toString e.succeeded,
   if failures.isEmpty then "-" else failures]

def sayReport (r : Report) : Talk Unit := do
  Table.say ⟨"Processing report", ["Marker", "State", "Passes", "Processed", "Failures"],
    r.entries.map entryRow⟩
  sayStructural r.structural
  Talk.say ("\n[bold]Summary:[/bold] " ++ toString r.order.length ++ " unit(s), " ++
    toString r.cycles.length ++ " cycle(s), " ++ toString (Fault.pendingCount r.pending) ++
    " unprocessed declaration(s)")

def sayIn (format : Format) (r : Report) : Talk Unit :=
  match format with
  | .table => sayReport r
  | .json => Talk.sayPlain (Json.ofValue r.toValue).indented
  | .yaml => Talk.sayPlain (Yaml.write (Json.ofValue r.toValue))

/-- Plans, and leaves the world as the plan leaves it. -/
def planIn (s : Surroundings σ) (a : Arguments) (w : World σ) : Talk (World σ × Talk Unit) := do
  let e ← engineFor s a
  let (result, _, w) := e.plan (scannerOf s) (.ofSettings s.environment e.settings) w
  return (w, do sayPlan (← reported result))

/-- Runs, and leaves the world as the run leaves it. -/
def runIn (s : Surroundings σ) (format : Format) (a : Arguments) (w : World σ) :
    Talk (World σ × Talk Unit) := do
  let e ← engineFor s a
  let (result, _, w) := e.process (scannerOf s) (.ofSettings s.environment e.settings) w
  return (w, do
    let r ← reported result
    sayIn format r
    unless r.succeeded do throw (.exit 1))

/-- A command as work on a world and what is said about it. -/
def Command.perform (c : Command) (s : Surroundings σ) (format : Format) (a : Arguments)
    (w : World σ) : Talk (World σ × Talk Unit) :=
  match c with
  | .version => return (w, sayVersion)
  | .handlers => return (w, sayHandlers s a)
  | .plan => planIn s a w
  | .run => runIn s format a w

/-- What a conversation leaves behind. -/
def outcomeOf (result : Except Ending Unit) (c : Console) : Outcome :=
  match result with
  | .ok () => ⟨0, c.said, c.complained, [], none⟩
  | .error (.exit code) => ⟨code, c.said, c.complained, [], none⟩
  | .error (.fault f) => ⟨1, c.said, c.complained, [], some f⟩

def Command.outcome (c : Command) (s : Surroundings σ) (format : Format) (a : Arguments)
    (w : World σ) : Outcome × World σ :=
  match (c.perform s format a w).run.run {} with
  | (.error e, console) => (outcomeOf (.error e) console, w)
  | (.ok (w, rest), console) =>
    let (result, console) := rest.run.run console
    (outcomeOf result console, w)

def run (s : Surroundings σ) (words : List String) (w : World σ) : Outcome × World σ :=
  match understand words with
  | .error f =>
    ({ exit := 2, usage := [usageLine none], complained := ["Error: " ++ f.message] }, w)
  | .ok (.notice n c) => ({ said := (noticeLines n c).map Line.text }, w)
  | .ok (.command c format a) => c.outcome s format a w

/-- The document of settings that what was typed asks for. -/
def configPath? (words : List String) : Option String :=
  match understand words with
  | .ok (.command _ _ a) => a.config
  | _ => none

end Marking.CommandLine
