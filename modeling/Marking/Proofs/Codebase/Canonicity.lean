/-
# Marking.Proofs.Codebase.Canonicity -- scans whose answers are settled by the modules

Among modules that import whatever was imported before, a scan answers every question about
packages of the codebase, with the matching declarations of the classes that the modules of the
scope define: each once, strictly rising in full name and kind, and the same ones when it is asked
again (`scan_canonical`).  The classes need different full names and their members names without
dots, because of declarations with one full name and kind only the first is kept, whatever its
markers.

If in addition what a module defines does not depend on what was imported before it, the answer
depends on the modules of the scope only, so packages can be given in any order, repeatedly, and
by a scan that walks along with what lies below them.
-/
import Marking.Proofs.Codebase.Layers
import Marking.Proofs.Codebase.Signatures

set_option autoImplicit false

namespace Marking

open Loaded ModuleScan

/-! ## What a scan is asked for -/

structure ModuleScan.Unused (s : ModuleScan) : Prop where
  found : s.found = []
  imported : s.codebase.Imported s.loaded

/-- Two scans of the same modules. -/
structure ModuleScan.Alike (s s' : ModuleScan) : Prop where
  codebase : s'.codebase = s.codebase
  extra : s'.extra = s.extra
  recursive : s'.recursive = s.recursive

/-- The targets are modules of the codebase.  Those of their modules' classes that have the same
full name are the same, and the members of each have names without dots, no two the same. -/
structure ModuleScan.WellNamed (s : ModuleScan) (targets : List String) : Prop where
  known : ∀ t ∈ targets, t ∈ s.codebase.names
  distinct : ∀ l, s.codebase.Imported l → ∀ n n', s.Scans targets n → s.Scans targets n' →
    ∀ cls cls', Defines l n cls → Defines l n' cls' → cls.fullName = cls'.fullName → cls = cls'
  plain : ∀ l, s.codebase.Imported l → ∀ n, s.Scans targets n → ∀ cls, Defines l n cls →
    cls.PlainNames

/-- A question matches a declaration: a class that a module of the scope defines declares it, it is
of the kind, and it has the marker. -/
def ModuleScan.Matches (s : ModuleScan) (packages : List String) (t : MarkerType)
    (kind : ElementKind) (l : Loaded) (d : Declaration) : Prop :=
  ∃ n, s.Scans (s.extra ++ packages) n ∧ inScope n packages ∧
    ∃ cls, Defines l n cls ∧ d ∈ cls.declarations.1 ∧ d.kind = kind ∧ d.hasMarker t

/-- The answer is strictly rising in full name and kind, and has exactly one declaration of each
full name and kind that the question matches, which is what it matches. -/
structure ModuleScan.Canonical (s : ModuleScan) (packages : List String) (t : MarkerType)
    (kind : ElementKind) (l : Loaded) (answer : List Declaration) : Prop where
  rising : Rising answer
  exactly : ∀ d, d ∈ answer ↔ s.Matches packages t kind l d
  single : ∀ d, s.Matches packages t kind l d → ∃! e, e ∈ answer ∧ signature e = signature d

/-- Some package of the first list is each of the second one or lies above it. -/
def Covers (packages packages' : List String) : Prop :=
  ∀ q ∈ packages', ∃ p ∈ packages, isWithin q p

instance (packages packages' : List String) : Decidable (Covers packages packages') :=
  inferInstanceAs (Decidable (∀ q ∈ packages', ∃ p ∈ packages, isWithin q p))

/-- The packages are the same, in some order and with some repetitions, or are the same along with
what lies below them for a scan that walks. -/
def ModuleScan.SameScope (s : ModuleScan) (packages packages' : List String) : Prop :=
  (∀ p, p ∈ packages ↔ p ∈ packages') ∨
    s.recursive ∧ Covers packages packages' ∧ Covers packages' packages

section Scopes

variable {s s' : ModuleScan} {packages packages' : List String} {n : String} {l l' : Loaded}
  {d : Declaration} {t : MarkerType} {kind : ElementKind}

theorem Covers.of_mem_iff (same : ∀ p, p ∈ packages ↔ p ∈ packages') : Covers packages packages' :=
  fun q member => ⟨q, (same q).2 member, isWithin_iff.2 List.prefix_rfl⟩

theorem Covers.nil (covers : Covers packages packages') (none : packages = []) : packages' = [] := by
  subst none
  refine List.eq_nil_iff_forall_not_mem.2 fun q member => ?_
  obtain ⟨p, isPackage, -⟩ := covers q member
  cases isPackage

theorem Covers.inScope (covers : Covers packages packages') (back : Covers packages' packages)
    (inside : inScope n packages') : inScope n packages := by
  rw [inScope_eq_true] at *
  rcases inside with none | ⟨q, member, within⟩
  · exact .inl (back.nil none)
  · obtain ⟨p, isPackage, above⟩ := covers q member
    exact .inr ⟨p, isPackage, isWithin_trans within above⟩

theorem Covers.scans (isRecursive : s.recursive) (covers : Covers packages packages')
    (scanned : s.Scans packages' n) : s.Scans packages n := by
  obtain ⟨known, q, member, inside⟩ := scanned
  obtain ⟨p, isPackage, above⟩ := covers q member
  refine ⟨known, p, isPackage, .inr ⟨isRecursive, ?_⟩⟩
  rcases inside with rfl | ⟨-, within⟩
  · exact above
  · exact isWithin_trans within above

/-- Packages that are the same scope have the same modules, and hold the same ones. -/
theorem ModuleScan.SameScope.covers (same : s.SameScope packages packages') :
    Covers packages packages' ∧ Covers packages' packages := by
  rcases same with same | ⟨-, covers⟩
  · exact ⟨.of_mem_iff same, .of_mem_iff fun p => (same p).symm⟩
  · exact covers

theorem ModuleScan.SameScope.symm (same : s.SameScope packages packages') :
    s.SameScope packages' packages :=
  same.imp (fun same p => (same p).symm) fun ⟨isRecursive, covers⟩ => ⟨isRecursive, covers.symm⟩

theorem scans_append {ts ts' : List String} :
    s.Scans (ts ++ ts') n ↔ s.Scans ts n ∨ s.Scans ts' n := by
  induction ts with
  | nil => simp [ModuleScan.Scans]
  | cons t ts ih => rw [List.cons_append, scans_cons, ih, ← or_assoc, ← scans_cons]

theorem ModuleScan.SameScope.scans (same : s.SameScope packages packages')
    (scanned : s.Scans (s.extra ++ packages') n) : s.Scans (s.extra ++ packages) n := by
  rw [scans_append] at *
  refine scanned.imp_right fun scanned => ?_
  rcases same with same | ⟨isRecursive, covers, -⟩
  · exact (scans_congr same).2 scanned
  · exact covers.scans isRecursive scanned

/-- What a question about one of two such scopes matches, one about the other one does, when the
modules of the scope define the same classes. -/
theorem ModuleScan.SameScope.matches (same : s.SameScope packages packages')
    (defines : ∀ n, s.Scans (s.extra ++ packages') n → ∀ cls, Defines l' n cls → Defines l n cls)
    (isMatch : s.Matches packages' t kind l' d) : s.Matches packages t kind l d := by
  obtain ⟨n, scanned, inside, cls, isDefined, rest⟩ := isMatch
  exact ⟨n, same.scans scanned, same.covers.1.inScope same.covers.2 inside, cls,
    defines n scanned cls isDefined, rest⟩

end Scopes

/-! ## What is kept -/

section Kept

variable {s s' : ModuleScan} {packages targets names : List String} {l : Loaded}
  {d e : Declaration} {ds answer : List Declaration} {t : MarkerType} {kind : ElementKind}

/-- The declarations that were kept of the modules of a scope, with what was loaded then. -/
structure Kept (s : ModuleScan) (packages : List String) (l : Loaded) (ds : List Declaration) :
    Prop where
  imported : s.codebase.Imported l
  loaded : ∀ n, s.Scans (s.extra ++ packages) n → ∀ a ∈ Codebase.ancestry n, l.has a
  collected : ∃ names, (∀ n, n ∈ names ↔ s.Scans (s.extra ++ packages) n) ∧
    ds = canonical (gathered l names)

/-- No two declarations of the modules have one full name and kind. -/
theorem eq_of_mem_gathered (wellNamed : s.WellNamed targets) (imported : s.codebase.Imported l)
    (scans : ∀ n ∈ names, s.Scans targets n) (memD : d ∈ gathered l names)
    (memE : e ∈ gathered l names) (same : signature d = signature e) : d = e := by
  obtain ⟨n, isModule, cls, defines, declares⟩ := mem_gathered.1 memD
  obtain ⟨n', isModule', cls', defines', declares'⟩ := mem_gathered.1 memE
  have scanned := scans n isModule
  have scanned' := scans n' isModule'
  exact ScannedClass.eq_of_signature_eq (wellNamed.plain l imported n scanned cls defines)
    (wellNamed.plain l imported n' scanned' cls' defines')
    (wellNamed.distinct l imported n n' scanned scanned' cls cls' defines defines')
    (ScannedClass.declares_of_mem declares) (ScannedClass.declares_of_mem declares') same

/-- So nothing is left out when the first of each is kept. -/
theorem isFirst_gathered (wellNamed : s.WellNamed targets) (imported : s.codebase.Imported l)
    (scans : ∀ n ∈ names, s.Scans targets n) :
    IsFirst (gathered l names) d ↔ d ∈ gathered l names := by
  refine ⟨IsFirst.mem, fun member => ?_⟩
  obtain ⟨e, first, same⟩ := exists_isFirst member
  rwa [← eq_of_mem_gathered wellNamed imported scans first.mem member same]

/-- The answer from what was kept is canonical. -/
theorem Kept.canonical (kept : Kept s packages l ds) (wellNamed : s.WellNamed (s.extra ++ packages))
    (t : MarkerType) (kind : ElementKind) : ∃ answer,
      Declaration.select kind t packages ds = .ok answer ∧ s.Canonical packages t kind l answer := by
  obtain ⟨names, scans, rfl⟩ := kept.collected
  obtain ⟨answer, selected, answered⟩ := select_canonical packages t kind l names
  have exactly : ∀ d, d ∈ answer ↔ s.Matches packages t kind l d := by
    intro d
    rw [answered.exactly, isFirst_gathered wellNamed kept.imported fun n => (scans n).1, mem_gathered]
    constructor
    · rintro ⟨⟨n, isModule, cls, defines, declares⟩, isKind, marked, m, package, inside⟩
      rw [package_of_mem_declarations declares] at package
      cases package
      exact ⟨n, (scans n).1 isModule, defines.2 ▸ inside, cls, defines, declares, isKind, marked⟩
    · rintro ⟨n, scanned, inside, cls, defines, declares, isKind, marked⟩
      exact ⟨⟨n, (scans n).2 scanned, cls, defines, declares⟩, isKind, marked, cls.module,
        package_of_mem_declarations declares, defines.2 ▸ inside⟩
  have rising : Rising answer := by
    rw [Discovery.select_spec selected]
    exact (canonical_rising _).filter _
  refine ⟨answer, selected, rising, exactly, fun d isMatch => ?_⟩
  have member := (exactly d).2 isMatch
  have isKept {x : Declaration} (member : x ∈ answer) : x ∈ gathered l names :=
    ((answered.exactly x).1 member).1.mem
  refine ⟨d, ⟨member, rfl⟩, fun e ⟨isAnswer, same⟩ => ?_⟩
  exact eq_of_mem_gathered wellNamed kept.imported (fun n => (scans n).1) (isKept isAnswer)
    (isKept member) same

end Kept

/-! ## Scans in use -/

section Use

variable {new s s' : ModuleScan} {packages : List String} {ds : List Declaration}

theorem Reached.trans {later : ModuleScan} (first : Reached new s) (second : Reached s later) :
    Reached new later := by
  induction second with
  | new => exact first
  | asked packages _ ih => exact ih.asked packages
  | looked module name _ ih => exact ih.looked module name

/-- What is remembered stays remembered. -/
theorem Reached.recalls (reached : Reached s s') (known : s.found.lookup packages = some ds) :
    s'.found.lookup packages = some ds := by
  induction reached with
  | new => exact known
  | @asked s scope _ ih =>
      rcases declarations_cases s scope with ⟨_, -, answer⟩ |
        ⟨-, ⟨f, l, notes, answer⟩ | ⟨ds', l, notes, -, answer⟩⟩
      · rw [answer]
        exact ih
      · rw [answer]
        exact ih
      · rw [answer, List.lookup_append, ih]
        rfl
  | @looked s module name _ ih =>
      unfold ModuleScan.declarationsOf
      rcases s.codebase.load module s.loaded with ⟨f | _, l⟩ <;> exact ih

/-- What is loaded was imported, and what is remembered of packages of the codebase was kept of
their modules. -/
structure Standing (s : ModuleScan) : Prop where
  imported : s.codebase.Imported s.loaded
  kept : ∀ packages ds, (∀ t ∈ s.extra ++ packages, t ∈ s.codebase.names) →
    s.found.lookup packages = some ds → ∃ l, Kept s packages l ds

theorem ModuleScan.Alike.refl (s : ModuleScan) : s.Alike s := ⟨rfl, rfl, rfl⟩

theorem ModuleScan.Alike.trans {later : ModuleScan} (first : new.Alike s) (second : s.Alike later) :
    new.Alike later :=
  ⟨second.codebase.trans first.codebase, second.extra.trans first.extra,
    second.recursive.trans first.recursive⟩

theorem Reached.alike (reached : Reached new s) : new.Alike s := by
  induction reached with
  | new => exact .refl new
  | @asked s packages _ ih =>
      rcases declarations_cases s packages with ⟨_, -, answer⟩ |
        ⟨-, ⟨f, l, notes, answer⟩ | ⟨ds, l, notes, -, answer⟩⟩ <;> rw [answer] <;>
        exact ⟨ih.codebase, ih.extra, ih.recursive⟩
  | @looked s module name _ ih =>
      unfold ModuleScan.declarationsOf
      rcases s.codebase.load module s.loaded with ⟨f | _, l⟩ <;>
        exact ⟨ih.codebase, ih.extra, ih.recursive⟩

theorem ModuleScan.Alike.scans_iff {n : String} (alike : new.Alike s) :
    s.Scans (s.extra ++ packages) n ↔ new.Scans (new.extra ++ packages) n := by
  rw [ModuleScan.Scans, ModuleScan.Scans, alike.codebase, alike.extra, alike.recursive]

theorem Kept.of_alike {l : Loaded} (alike : new.Alike s) (kept : Kept s packages l ds) :
    Kept new packages l ds := by
  obtain ⟨imported, loaded, collected⟩ := kept
  simp only [alike.scans_iff] at loaded collected
  exact ⟨alike.codebase ▸ imported, loaded, collected⟩

/-- What is collected is kept of the modules of the scope. -/
theorem collect_kept (imports : s.codebase.AlwaysImports) (imported : s.codebase.Imported s.loaded)
    (known : ∀ t ∈ s.extra ++ packages, t ∈ s.codebase.names) :
    ∃ ds l notes, s.collect packages = (.ok ds, l, notes) ∧ Kept s packages l ds := by
  obtain ⟨names, l, notes, expands, imported, -, here, scans⟩ :=
    expandAll_scans imports (s.extra ++ packages) known imported
  rw [ModuleScan.collect, expands]
  simp only [List.flatMap_map]
  exact ⟨_, l, _, rfl, imported, fun n scanned => here n ((scans n).2 scanned), names, scans, rfl⟩

theorem loaded_collect (s : ModuleScan) (packages : List String) :
    (s.collect packages).2.1 = (s.expandAll (s.extra ++ packages) s.loaded).2.1 := by
  rw [ModuleScan.collect]
  rcases s.expandAll (s.extra ++ packages) s.loaded with ⟨f | names, l, notes⟩ <;> rfl

/-- **One question**: what is loaded and remembered stays as it should be. -/
theorem Standing.asked (imports : s.codebase.AlwaysImports) (standing : Standing s)
    (packages : List String) : Standing (s.declarations packages).2.1 := by
  have collected := expandAll_imported standing.imported (s.extra ++ packages)
  rw [← loaded_collect] at collected
  rw [ModuleScan.declarations]
  cases asked : s.found.lookup packages with
  | some ds => exact standing
  | none =>
      rcases collects : s.collect packages with ⟨f | ds, l, notes⟩ <;> rw [collects] at collected
      · refine ⟨collected, fun scope ds known found => ?_⟩
        obtain ⟨l, kept⟩ := standing.kept scope ds known found
        exact ⟨l, kept.imported, kept.loaded, kept.collected⟩
      · refine ⟨collected, fun scope ds' known found => ?_⟩
        rw [List.lookup_append] at found
        cases remembered : s.found.lookup scope with
        | some ds₀ =>
            rw [remembered] at found
            cases found
            obtain ⟨l, kept⟩ := standing.kept scope ds' known remembered
            exact ⟨l, kept.imported, kept.loaded, kept.collected⟩
        | none =>
            rw [remembered, Option.none_or, List.lookup_cons] at found
            split at found
            · next same =>
                cases found
                cases eq_of_beq same
                obtain ⟨ds, l, notes, collects', kept⟩ :=
                  collect_kept imports standing.imported known
                cases collects.symm.trans collects'
                exact ⟨l, kept.imported, kept.loaded, kept.collected⟩
            · cases found

/-- Looking up a name imports a module, and nothing else. -/
theorem Standing.looked (standing : Standing s) (module name : String) :
    Standing (s.declarationsOf module name).2.1 := by
  have imported := standing.imported.load module
  unfold ModuleScan.declarationsOf
  rcases loads : s.codebase.load module s.loaded with ⟨f | _, l⟩ <;> rw [loads] at imported <;>
    refine ⟨imported, fun scope ds known found => ?_⟩ <;>
    obtain ⟨l', kept⟩ := standing.kept scope ds known found <;>
    exact ⟨l', kept.imported, kept.loaded, kept.collected⟩

/-- **A run of questions**, from the steps. -/
theorem Reached.standing (unused : new.Unused) (imports : new.codebase.AlwaysImports)
    (reached : Reached new s) : Standing s := by
  induction reached with
  | new =>
      refine ⟨unused.imported, fun packages ds _ found => ?_⟩
      rw [unused.found] at found
      cases found
  | asked packages reached ih => exact ih.asked (reached.alike.codebase ▸ imports) packages
  | looked module name _ ih => exact ih.looked module name

/-- A scan in use answers for packages of the codebase, from what it keeps of their modules. -/
theorem Standing.declares (imports : s.codebase.AlwaysImports) (standing : Standing s)
    (known : ∀ t ∈ s.extra ++ packages, t ∈ s.codebase.names) :
    ∃ ds l notes, s.declarations packages = (.ok ds, (s.declarations packages).2.1, notes) ∧
      Kept s packages l ds ∧ (s.declarations packages).2.1.found.lookup packages = some ds ∧
      (s.found.lookup packages = none → (s.declarations packages).2.1.loaded = l) := by
  rw [ModuleScan.declarations]
  cases asked : s.found.lookup packages with
  | some ds =>
      obtain ⟨l, kept⟩ := standing.kept packages ds known asked
      exact ⟨ds, l, [], rfl, kept, asked, fun new => absurd new (Option.some_ne_none ds)⟩
  | none =>
      obtain ⟨ds, l, notes, collects, kept⟩ := collect_kept imports standing.imported known
      rw [collects]
      refine ⟨ds, l, notes, rfl, kept, ?_, fun _ => rfl⟩
      rw [List.lookup_append, asked, Option.none_or, List.lookup_cons_self]

end Use

/-! ## Canonical answers -/

section Answers

variable {new s new' s' : ModuleScan} {packages packages' : List String} {l l' : Loaded}
  {t : MarkerType} {kind : ElementKind} {answer answer' : List Declaration}

/-- Canonical answers for scopes that are the same are the same, when their modules define the
same classes. -/
theorem ModuleScan.Canonical.unique (same : s.SameScope packages packages')
    (canonical : s.Canonical packages t kind l answer)
    (canonical' : s.Canonical packages' t kind l' answer')
    (defines : ∀ n, s.Scans (s.extra ++ packages) n → ∀ cls, Defines l n cls ↔ Defines l' n cls) :
    answer' = answer := by
  refine eq_of_rising canonical'.rising canonical.rising fun d => ?_
  rw [canonical'.exactly, canonical.exactly]
  constructor
  · exact same.matches fun n scanned cls => (defines n (same.scans scanned) cls).2
  · exact same.symm.matches fun n scanned cls => (defines n scanned cls).1

/-- The targets of such scopes are as good as each other's. -/
theorem ModuleScan.SameScope.wellNamed (same : s.SameScope packages packages')
    (known : ∀ p ∈ packages', p ∈ s.codebase.names) (wellNamed : s.WellNamed (s.extra ++ packages)) :
    s.WellNamed (s.extra ++ packages') where
  known := List.forall_mem_append.2 ⟨(List.forall_mem_append.1 wellNamed.known).1, known⟩
  distinct l imported n n' scanned scanned' :=
    wellNamed.distinct l imported n n' (same.scans scanned) (same.scans scanned')
  plain l imported n scanned := wellNamed.plain l imported n (same.scans scanned)

/-- A scan that was not asked about packages imports nothing for them when their modules and all
above these are there. -/
theorem Standing.still (standing : Standing s) (imports : s.codebase.AlwaysImports)
    (isNew : s.found.lookup packages = none)
    (known : ∀ t ∈ s.extra ++ packages, t ∈ s.codebase.names)
    (there : ∀ n, s.Scans (s.extra ++ packages) n → ∀ a ∈ Codebase.ancestry n, s.loaded.has a) :
    (s.declarations packages).2.1.loaded = s.loaded := by
  have collected : (s.collect packages).2.1 = s.loaded := by
    rw [loaded_collect]
    exact expandAll_still imports standing.imported.settled known there
  rw [ModuleScan.declarations, isNew]
  rcases collects : s.collect packages with ⟨f | ds, l, notes⟩ <;> rwa [collects] at collected

/-- A scan in use has a canonical answer, and has it again later. -/
theorem Standing.answers (standing : Standing s) (alike : new.Alike s)
    (imports : new.codebase.AlwaysImports) (wellNamed : new.WellNamed (new.extra ++ packages))
    (t : MarkerType) (kind : ElementKind) : ∃ answer notes l,
      (Scanner.modules s).query t kind packages =
        (.ok answer, .modules (s.declarations packages).2.1, notes) ∧
      new.codebase.Imported l ∧
      (∀ n, new.Scans (new.extra ++ packages) n → ∀ a ∈ Codebase.ancestry n, l.has a) ∧
      (s.found.lookup packages = none → (s.declarations packages).2.1.loaded = l) ∧
      new.Canonical packages t kind l answer ∧
      ∀ later, Reached (s.declarations packages).2.1 later →
        (Scanner.modules later).query t kind packages = (.ok answer, .modules later, []) := by
  have known : ∀ t ∈ s.extra ++ packages, t ∈ s.codebase.names := by
    rw [alike.extra, alike.codebase]
    exact wellNamed.known
  obtain ⟨ds, l, notes, declares, kept, remembered, last⟩ :=
    standing.declares (alike.codebase ▸ imports) known
  have kept := kept.of_alike alike
  obtain ⟨answer, selected, canonical⟩ := kept.canonical wellNamed t kind
  refine ⟨answer, notes, l, ?_, kept.imported, kept.loaded, last, canonical, fun later reached => ?_⟩
  · rw [Scanner.query_modules, declares]
    exact Prod.ext selected rfl
  · have recalled := reached.recalls remembered
    rw [Scanner.query_modules, ModuleScan.declarations, recalled]
    exact Prod.ext selected rfl

/-- **What a scan of modules answers is canonical.**  A scan in use, of modules that import whatever
was imported before, is asked about packages of the codebase.  It answers with what the question
matches, strictly rising in full name and kind, and with one declaration of each that occurs.  It
gives this answer whenever it is asked again.

The packages can be given in any order and with any repetitions and, if the scan walks, along with
what lies below them: the scan gives this answer unless more was imported in between, or it was
asked about these before.  When what the modules define does not depend on what was imported before,
every scan of them gives it, whatever it was asked. -/
theorem scan_canonical (unused : new.Unused) (imports : new.codebase.AlwaysImports)
    (wellNamed : new.WellNamed (new.extra ++ packages)) (reached : Reached new s) (t : MarkerType)
    (kind : ElementKind) : ∃ answer notes l,
      (Scanner.modules s).query t kind packages =
        (.ok answer, .modules (s.declarations packages).2.1, notes) ∧
      new.codebase.Imported l ∧ (∀ n, new.Scans (new.extra ++ packages) n → l.has n) ∧
      (s.found.lookup packages = none → (s.declarations packages).2.1.loaded = l) ∧
      new.Canonical packages t kind l answer ∧
      (∀ later, Reached (s.declarations packages).2.1 later →
        (Scanner.modules later).query t kind packages = (.ok answer, .modules later, [])) ∧
      ∀ packages', (∀ p ∈ packages', p ∈ new.codebase.names) → new.SameScope packages packages' →
        (∀ later, Reached (s.declarations packages).2.1 later → later.loaded = l →
          later.found.lookup packages' = none →
            ((Scanner.modules later).query t kind packages').1 = .ok answer) ∧
        (new.codebase.OrderFree → ∀ new' s', new.Alike new' → new'.Unused → Reached new' s' →
          ((Scanner.modules s').query t kind packages').1 = .ok answer) := by
  obtain ⟨answer, notes, l, asked, imported, loaded, last, canonical, again⟩ :=
    (reached.standing unused imports).answers reached.alike imports wellNamed t kind
  have here (n : String) (scanned : new.Scans (new.extra ++ packages) n) : l.has n :=
    loaded n scanned n (Codebase.mem_ancestry n)
  refine ⟨answer, notes, l, asked, imported, here, last, canonical, again, ?_⟩
  intro packages' known same
  have wellNamed' := same.wellNamed known wellNamed
  constructor
  · intro later reached' unchanged isNew
    have reached' := (reached.asked packages).trans reached'
    have standing := reached'.standing unused imports
    have alike := reached'.alike
    obtain ⟨answer', notes', l', asked', -, -, last', canonical', -⟩ :=
      standing.answers alike imports wellNamed' t kind
    have there : ∀ n, later.Scans (later.extra ++ packages') n →
        ∀ a ∈ Codebase.ancestry n, later.loaded.has a := by
      intro n scanned
      rw [unchanged]
      exact loaded n (same.scans (alike.scans_iff.1 scanned))
    have still : (later.declarations packages').2.1.loaded = later.loaded := by
      refine standing.still (alike.codebase ▸ imports) isNew ?_ there
      rw [alike.extra, alike.codebase]
      exact wellNamed'.known
    -- Nothing new is imported, so the answer is about the same classes.
    have sameLoaded : l' = l := (last' isNew).symm.trans (still.trans unchanged)
    subst sameLoaded
    rw [asked', canonical.unique same canonical' fun n _ cls => Iff.rfl]
  · intro orderFree new' s' alike unused' reached'
    have standing := reached'.standing unused' (alike.codebase ▸ imports)
    obtain ⟨answer', notes', l', asked', imported', loaded', -, canonical', -⟩ :=
      standing.answers (alike.trans reached'.alike) imports wellNamed' t kind
    have defines : ∀ n, new.Scans (new.extra ++ packages) n →
        ∀ cls, Defines l n cls ↔ Defines l' n cls := by
      intro n scanned
      have there := loaded' n (same.symm.scans scanned) n (Codebase.mem_ancestry n)
      exact orderFree l l' imported imported' n scanned.1 (here n scanned) there
    rw [asked', canonical.unique same canonical' defines]

end Answers

namespace Sample

def modelSpec : ClassSpec where
  name := "Shop"
  qualname := "Shop"
  module := "shop.models"
  markers := [.mk service []]
  members := [{ name := "open", markers := [.mk service []] }]

/-- A package that takes a class from a module below it, and gives it another name. -/
def shop : ModuleScan where
  codebase := {
    modules := [
      { name := "shop", isPackage := true, imports := [("shop.models", "Shop")],
        aliases := [("Store", "Shop")] },
      { name := "shop.models", classes := [modelSpec] }] }

def model : ScannedClass := Namespace.define [] modelSpec

def opening : Declaration := ⟨.method, model.value, "open", [.mk service []]⟩

/-- What the names of the modules stand for. -/
def shopMeaning (module : String) : Namespace :=
  if module = "shop" then [("Shop", some model), ("Store", some model)]
  else if module = "shop.models" then [("Shop", some model)]
  else []

theorem shop_names {n : String} (known : n ∈ shop.codebase.known) :
    n = "shop" ∨ n = "shop.models" := by
  have names : shop.codebase.known = ["shop", "shop.models"] := by decide
  rw [names] at known
  simpa using known

theorem shop_below {p x : String} (below : shop.codebase.Below p x) :
    p ≠ "shop.models" ∧ (p = "shop" → x = "models") := by
  obtain ⟨n, found, rfl, rfl⟩ := below
  obtain ⟨m, found⟩ := Option.isSome_iff_exists.1 found
  rcases shop_names (Codebase.mem_known found) with rfl | rfl <;> decide

theorem shop_layered :
    shop.codebase.Layered (fun n => if n = "shop" then 1 else 0) shopMeaning where
  named n known := by
    rcases shop_names (List.mem_append_left _ known) with rfl | rfl <;> decide
  distinguished := nofun
  modules n m found := by
    rcases shop_names (Codebase.mem_known found) with rfl | rfl <;> cases found
    · refine ⟨rfl, List.forall_mem_singleton.2 ⟨by decide, ?_, ?_⟩, rfl, fun x below => ?_⟩
      · decide
      · exact .inl (by decide)
      · cases (shop_below below).2 rfl
        decide
    · exact ⟨rfl, nofun, rfl, fun x below => absurd rfl (shop_below below).1⟩

theorem shop_defines {l : Loaded} (imported : shop.codebase.Imported l) {n : String}
    (known : n ∈ shop.codebase.names) {cls : ScannedClass} (defines : Defines l n cls) :
    cls = model := by
  obtain ⟨⟨x, stands⟩, -⟩ :=
    (shop_layered.defines_iff imported known (Codebase.has_of_defines defines)).1 defines
  rcases shop_names (List.mem_append_left _ known) with rfl | rfl
  · have once : (shopMeaning "shop").Once := by decide
    have member := once.mem_iff.2 stands
    simp only [shopMeaning, if_true, List.mem_cons, Prod.mk.injEq, List.not_mem_nil] at member
    grind
  · have once : (shopMeaning "shop.models").Once := by decide
    have member := List.mem_singleton.1 (once.mem_iff.2 stands)
    exact Option.some.inj (Prod.mk.inj member).2

theorem shop_wellNamed : shop.WellNamed ["shop"] where
  known := by decide
  distinct l imported n n' scanned scanned' cls cls' defines defines' _ :=
    (shop_defines imported scanned.1 defines).trans (shop_defines imported scanned'.1 defines').symm
  plain l imported n scanned cls defines := by
    rw [shop_defines imported scanned.1 defines]
    exact ⟨by decide, by decide, nofun, List.nodup_nil⟩

/-- The method is found once, though the package has two more names for its class, and again when
the package is named along with the module below it. -/
theorem scan_canonical_shop :
    shop.Unused ∧ shop.codebase.AlwaysImports ∧ shop.codebase.OrderFree ∧ shop.WellNamed ["shop"] ∧
      shop.SameScope ["shop"] ["shop.models", "shop", "shop"] ∧
      ((Scanner.modules shop).query service .method ["shop"]).1 = .ok [opening] ∧
      ((Scanner.modules shop).query service .method ["shop.models", "shop", "shop"]).1 =
        .ok [opening] := by
  have unused : shop.Unused := ⟨rfl, .nothing⟩
  have same : shop.SameScope ["shop"] ["shop.models", "shop", "shop"] :=
    .inr ⟨rfl, by decide, by decide⟩
  obtain ⟨answer, notes, l, asked, imported, loaded, -, canonical, -, others⟩ :=
    scan_canonical unused shop_layered.alwaysImports shop_wellNamed .new service .method
  have isAnswer : answer = [opening] := by
    refine eq_of_rising canonical.rising (List.pairwise_singleton _ _) fun d => ?_
    rw [canonical.exactly, List.mem_singleton]
    constructor
    · rintro ⟨n, scanned, -, cls, defines, declares, isKind, -⟩
      rw [shop_defines imported scanned.1 defines] at declares
      rcases List.mem_cons.1 declares with rfl | isMember
      · cases isKind
      · exact List.mem_singleton.1 isMember
    · rintro rfl
      have scanned : shop.Scans (shop.extra ++ ["shop"]) "shop.models" :=
        ⟨by decide, "shop", List.mem_singleton_self _, .inr ⟨rfl, by decide⟩⟩
      have defines : Defines l "shop.models" model :=
        (shop_layered.defines_iff imported scanned.1 (loaded _ scanned)).2 ⟨⟨"Shop", rfl⟩, rfl⟩
      exact ⟨"shop.models", scanned, by decide, model, defines,
        List.mem_cons_of_mem _ List.mem_cons_self, rfl, by decide⟩
  subst isAnswer
  refine ⟨unused, shop_layered.alwaysImports, shop_layered.orderFree, shop_wellNamed, same,
    congrArg Prod.fst asked, ?_⟩
  exact (others _ (by decide) same).2 shop_layered.orderFree shop shop (.refl shop) unused .new

/-- A package with a class that has the name of a module below it. -/
def clash : ModuleScan where
  codebase := { modules := [{ moduleWith "p" "sub" with isPackage := true }, { name := "p.sub" }] }
  recursive := false

/-- The scan when it was asked about the package and about the module. -/
def clashed : ModuleScan := ((clash.declarations ["p"]).2.1.declarations ["p.sub"]).2.1

theorem clash_before :
    ((Scanner.modules clash).query service .type ["p"]).1 = .ok [declared "p" "sub"] := by
  have expands : clash.expandAll (clash.extra ++ ["p"]) clash.loaded =
      (.ok ["p"], (clash.expandAll ["p"] {}).2.1, []) := by rfl
  have kept : canonical (gathered (clash.expandAll ["p"] {}).2.1 ["p"]) = [declared "p" "sub"] := by
    rw [gathered, ordered_singleton]
    exact List.mergeSort_of_pairwise (List.pairwise_singleton _ _)
  exact (query_new rfl expands kept service .type).trans rfl

theorem clash_after :
    ((Scanner.modules clashed).query service .type ["p", "p"]).1 = .ok [] := by
  have expands : clashed.expandAll (clashed.extra ++ ["p", "p"]) clashed.loaded =
      (.ok ["p", "p"], clashed.loaded, []) := by rfl
  have kept : canonical (gathered clashed.loaded ["p", "p"]) = [] := by
    have single : ordered ["p", "p"] = ["p"] := List.mergeSort_of_pairwise (by decide)
    rw [gathered, single]
    exact List.mergeSort_of_pairwise .nil
  exact (query_new rfl expands kept service .type).trans rfl

def view : MarkerType := .derive .root 4 "View" (some "sample") (some (.kind .method))

/-- A class with a member that has a dot in its name. -/
def outer : ClassSpec where
  name := "Outer"
  qualname := "Outer"
  module := "m"
  members := [{ name := "Inner.show", markers := [.mk service []] }]

/-- A class inside of it, with a member of the same full name. -/
def inner : ClassSpec where
  name := "Inner"
  qualname := "Outer.Inner"
  module := "m"
  members := [{ name := "show", markers := [.mk view []] }]

def dotted : ModuleScan where
  codebase := { modules := [{ name := "m", classes := [outer, inner] }] }

def shadowing : Declaration :=
  ⟨.method, (Namespace.define [] outer).value, "Inner.show", [.mk service []]⟩

def shadowed : Declaration := ⟨.method, (Namespace.define [] inner).value, "show", [.mk view []]⟩

theorem dotted_shadowed :
    dotted.Matches ["m"] view .method (dotted.declarations ["m"]).2.1.loaded shadowed ∧
      ((Scanner.modules dotted).query view .method ["m"]).1 = .ok [] := by
  have expands : dotted.expandAll (dotted.extra ++ ["m"]) dotted.loaded =
      (.ok ["m"], (dotted.declarations ["m"]).2.1.loaded, []) := by rfl
  have kept : canonical (gathered (dotted.declarations ["m"]).2.1.loaded ["m"]) = [shadowing] := by
    have once : [shadowing, shadowed].foldl keepNew [] = [shadowing] := by rfl
    rw [gathered, ordered_singleton, canonical_eq]
    exact (congrArg (List.mergeSort · _) once).trans
      (List.mergeSort_of_pairwise (List.pairwise_singleton _ _))
  refine ⟨⟨"m", ⟨by decide, "m", List.mem_singleton_self _, .inl rfl⟩, by decide,
    Namespace.define [] inner, ⟨⟨"Inner", ?_⟩, rfl⟩, List.mem_singleton_self _, rfl, by decide⟩,
    (query_new rfl expands kept view .method).trans rfl⟩
  exact List.mem_cons_of_mem _ List.mem_cons_self

/-- A package and a module below it, each with a class, for a scan that does not walk. -/
def still : ModuleScan where
  codebase := {
    modules := [{ moduleWith "p" "A" with isPackage := true }, moduleWith "p.sub" "B"] }
  recursive := false

theorem still_above :
    ((Scanner.modules still).query service .type ["p"]).1 = .ok [declared "p" "A"] := by
  have expands : still.expandAll (still.extra ++ ["p"]) still.loaded =
      (.ok ["p"], (still.expandAll ["p"] {}).2.1, []) := by rfl
  have kept : canonical (gathered (still.expandAll ["p"] {}).2.1 ["p"]) = [declared "p" "A"] := by
    rw [gathered, ordered_singleton]
    exact List.mergeSort_of_pairwise (List.pairwise_singleton _ _)
  exact (query_new rfl expands kept service .type).trans rfl

theorem still_both :
    ((Scanner.modules still).query service .type ["p", "p.sub"]).1 =
      .ok [declared "p" "A", declared "p.sub" "B"] := by
  have expands : still.expandAll (still.extra ++ ["p", "p.sub"]) still.loaded =
      (.ok ["p", "p.sub"], (still.expandAll ["p", "p.sub"] {}).2.1, []) := by rfl
  have kept : canonical (gathered (still.expandAll ["p", "p.sub"] {}).2.1 ["p", "p.sub"]) =
      [declared "p" "A", declared "p.sub" "B"] := by
    have rising : ordered ["p", "p.sub"] = ["p", "p.sub"] :=
      List.mergeSort_of_pairwise (by decide)
    have once : [declared "p" "A", declared "p.sub" "B"].foldl keepNew [] =
        [declared "p" "A", declared "p.sub" "B"] := by rfl
    rw [gathered, rising, canonical_eq]
    refine .trans (congrArg (List.mergeSort · _) once) (List.mergeSort_of_pairwise ?_)
    decide
  exact (query_new rfl expands kept service .type).trans rfl

/-- What the conditions are for.  A package named twice loses a class when the module of this name
below it was imported in between.  A declaration is left out for one of the same full name that the
question does not match.  A scan that does not walk finds more when a package is named along with
a module below it. -/
theorem scan_unsettled :
    (((Scanner.modules clash).query service .type ["p"]).1 = .ok [declared "p" "sub"] ∧
      Reached clash clashed ∧ ((Scanner.modules clashed).query service .type ["p", "p"]).1 = .ok []) ∧
    (dotted.Matches ["m"] view .method (dotted.declarations ["m"]).2.1.loaded shadowed ∧
      ((Scanner.modules dotted).query view .method ["m"]).1 = .ok []) ∧
    isWithin "p.sub" "p" ∧
      ((Scanner.modules still).query service .type ["p"]).1 = .ok [declared "p" "A"] ∧
      ((Scanner.modules still).query service .type ["p", "p.sub"]).1 =
        .ok [declared "p" "A", declared "p.sub" "B"] :=
  ⟨⟨clash_before, (Reached.new.asked ["p"]).asked ["p.sub"], clash_after⟩, dotted_shadowed,
    by decide, still_above, still_both⟩

end Sample

end Marking
