/-
# Marking.Proofs.Codebase.Collecting -- what a scan of modules answers

A scan collects what the classes of its modules declare, of the modules that it was told to scan
and of those of the scope alike (`Collects`, `gathered`), and keeps the first declaration of every
full name and kind (`mem_canonical`).  What it has collected it remembers (`Reached.remembers`).

A question is answered from what was kept, but only with what lies in the scope
(`modules_answer`).  So the further modules add to the answer for the empty scope, and for a scope
that they lie in; for any other scope they are collected and then left out
(`further_module_left_out`).
-/
import Marking.Proofs.Codebase.Walking
import Marking.Proofs.Discovery.Bystanders

set_option autoImplicit false

namespace Marking

open ModuleScan

/-! ## The first of every name and kind -/

section First

variable {ds kept : List Declaration} {d e : Declaration}

/-- No declaration before it in the list has its full name and kind. -/
def IsFirst (ds : List Declaration) (d : Declaration) : Prop :=
  ∃ before after, ds = before ++ d :: after ∧ ∀ e ∈ before, signature e ≠ signature d

theorem isFirst_cons {x : Declaration} :
    IsFirst (x :: ds) d ↔ d = x ∨ IsFirst ds d ∧ signature x ≠ signature d := by
  constructor
  · rintro ⟨_ | ⟨y, before⟩, after, whole, new⟩
    · cases whole
      exact .inl rfl
    · cases whole
      obtain ⟨other, new⟩ := List.forall_mem_cons.1 new
      exact .inr ⟨⟨before, after, rfl, new⟩, other⟩
  · rintro (rfl | ⟨⟨before, after, rfl, new⟩, other⟩)
    · exact ⟨[], ds, rfl, nofun⟩
    · exact ⟨x :: before, after, rfl, List.forall_mem_cons.2 ⟨other, new⟩⟩

theorem IsFirst.mem (first : IsFirst ds d) : d ∈ ds := by
  obtain ⟨before, after, rfl, -⟩ := first
  exact List.mem_append_right _ (List.mem_cons_self ..)

/-- Every full name and kind has a first declaration. -/
theorem exists_isFirst (member : d ∈ ds) : ∃ e, IsFirst ds e ∧ signature e = signature d := by
  induction ds with
  | nil => cases member
  | cons x ds ih =>
      by_cases same : signature x = signature d
      · exact ⟨x, isFirst_cons.2 (.inl rfl), same⟩
      · rcases List.mem_cons.1 member with rfl | later
        · exact absurd rfl same
        · obtain ⟨e, first, isSame⟩ := ih later
          exact ⟨e, isFirst_cons.2 (.inr ⟨first, isSame ▸ same⟩), isSame⟩

/-- Keeps a declaration unless one of its full name and kind has been kept. -/
def keepNew (kept : List Declaration) (d : Declaration) : List Declaration :=
  if kept.any (fun e => signature e = signature d) then kept else kept ++ [d]

theorem mem_foldl_keepNew : d ∈ ds.foldl keepNew kept ↔
    d ∈ kept ∨ IsFirst ds d ∧ ∀ e ∈ kept, signature e ≠ signature d := by
  induction ds generalizing kept with
  | nil =>
      refine ⟨.inl, fun h => h.resolve_right ?_⟩
      rintro ⟨first, -⟩
      cases first.mem
  | cons x ds ih =>
      rw [List.foldl_cons, ih, isFirst_cons, keepNew]
      split
      · next known =>
          obtain ⟨e, isKept, same⟩ := List.any_eq_true.1 known
          have same : signature e = signature x := of_decide_eq_true same
          constructor
          · rintro (isKept | ⟨first, new⟩)
            · exact .inl isKept
            · exact .inr ⟨.inr ⟨first, fun h => new e isKept (same.trans h)⟩, new⟩
          · rintro (isKept | ⟨rfl | ⟨first, -⟩, new⟩)
            · exact .inl isKept
            · exact absurd same (new e isKept)
            · exact .inr ⟨first, new⟩
      · next unknown =>
          have isNew : ∀ e ∈ kept, signature e ≠ signature x := fun e isKept same =>
            unknown (List.any_eq_true.2 ⟨e, isKept, decide_eq_true same⟩)
          rw [List.mem_append, List.mem_singleton]
          constructor
          · rintro ((isKept | rfl) | ⟨first, new⟩)
            · exact .inl isKept
            · exact .inr ⟨.inl rfl, isNew⟩
            · obtain ⟨new, other⟩ := List.forall_mem_append.1 new
              exact .inr ⟨.inr ⟨first, other x (List.mem_singleton_self x)⟩, new⟩
          · rintro (isKept | ⟨rfl | ⟨first, other⟩, new⟩)
            · exact .inl (.inl isKept)
            · exact .inl (.inr rfl)
            · exact .inr ⟨first, List.forall_mem_append.2
                ⟨new, List.forall_mem_singleton.2 other⟩⟩

theorem canonical_eq (ds : List Declaration) : canonical ds =
    (ds.foldl keepNew []).mergeSort fun a b => (signature a).le (signature b) := rfl

/-- What is kept is the first of every full name and kind. -/
theorem mem_canonical : d ∈ canonical ds ↔ IsFirst ds d := by
  rw [canonical_eq, List.mem_mergeSort, mem_foldl_keepNew]
  exact ⟨fun h => (h.resolve_left List.not_mem_nil).1, fun first => .inr ⟨first, nofun⟩⟩

theorem canonical_once (ds : List Declaration) :
    (canonical ds).Pairwise fun a b => signature a ≠ signature b := by
  have kept : (ds.foldl keepNew []).Pairwise fun a b => ¬ decide (signature a = signature b) :=
    Codebase.pairwise_foldl_unless .nil
  rw [canonical_eq]
  refine (List.mergeSort_perm _ _).symm.pairwise (kept.imp fun differ same => ?_) Ne.symm
  exact differ (decide_eq_true same)

end First

/-! ## What is collected -/

/-- The module has a name for the class, and defines it. -/
def Defines (l : Loaded) (n : String) (cls : ScannedClass) : Prop :=
  (∃ x, (x, some cls) ∈ l.namespaceOf n) ∧ cls.module = n

/-- What is declared in modules, in the order in which it is collected. -/
def gathered (l : Loaded) (names : List String) : List Declaration :=
  ((ordered names).flatMap (classesOf l)).flatMap fun cls => cls.declarations.1

section Gathered

variable {l : Loaded} {n : String} {names : List String} {cls : ScannedClass} {d : Declaration}

theorem mem_ordered : n ∈ ordered names ↔ n ∈ names := by
  rw [ordered, List.mem_mergeSort, Codebase.mem_foldl_once]
  exact or_iff_right List.not_mem_nil

theorem ordered_singleton (n : String) : ordered [n] = [n] :=
  List.mergeSort_of_pairwise (List.pairwise_singleton _ n)

theorem mem_classesOf : cls ∈ classesOf l n ↔ Defines l n cls := by
  rw [classesOf, List.mem_filter, List.mem_filterMap, Defines]
  refine and_congr ⟨?_, ?_⟩ beq_iff_eq
  · rintro ⟨⟨x, bound⟩, member, rfl⟩
    exact ⟨x, member⟩
  · rintro ⟨x, member⟩
    exact ⟨(x, some cls), member, rfl⟩

theorem mem_gathered : d ∈ gathered l names ↔
    ∃ n ∈ names, ∃ cls, Defines l n cls ∧ d ∈ cls.declarations.1 := by
  rw [gathered, List.mem_flatMap]
  constructor
  · rintro ⟨cls, member, declares⟩
    obtain ⟨n, isModule, defines⟩ := List.mem_flatMap.1 member
    exact ⟨n, mem_ordered.1 isModule, cls, mem_classesOf.1 defines, declares⟩
  · rintro ⟨n, isModule, cls, defines, declares⟩
    exact ⟨cls, List.mem_flatMap.2 ⟨n, mem_ordered.2 isModule, mem_classesOf.2 defines⟩, declares⟩

/-- What a class declares belongs to it. -/
theorem owner_of_mem_declarations (declares : d ∈ cls.declarations.1) : d.owner = cls.value := by
  rw [ScannedClass.declarations, List.mem_append, List.mem_append] at declares
  rcases declares with (isType | isMember) | isField
  · rw [ScannedClass.typeDeclarations] at isType
    split at isType
    · cases isType
    · rw [List.mem_singleton.1 isType]
  · obtain ⟨m, -, rfl⟩ := List.mem_map.1 isMember
    rfl
  · unfold ScannedClass.fieldDeclarations at isField
    split at isField
    · cases isField
    · split at isField
      · cases isField
      · obtain ⟨f, -, rfl⟩ := List.mem_map.1 isField
        rfl

theorem package_of_mem_declarations (declares : d ∈ cls.declarations.1) :
    d.package = .ok (some cls.module) := by
  rw [Declaration.package, owner_of_mem_declarations declares]
  rfl

theorem isPlaced_of_mem_gathered (member : d ∈ gathered l names) : d.IsPlaced := by
  obtain ⟨n, -, cls, -, declares⟩ := mem_gathered.1 member
  exact ⟨_, package_of_mem_declarations declares⟩

end Gathered

/-- The modules of the targets, when these are expanded one after the other. -/
inductive Collects (expand : String → Loaded → Step (List String)) :
    List String → Loaded → List String → Loaded → Prop
  | done (l : Loaded) : Collects expand [] l [] l
  | target {t : String} {ts ms names : List String} {l l₁ l' : Loaded} {notes : Journal} :
      expand t l = (.ok ms, l₁, notes) → Collects expand ts l₁ names l' →
      Collects expand (t :: ts) l (ms ++ names) l'

section Collects

variable {s : ModuleScan} {l l' : Loaded} {names ts packages : List String} {notes : Journal}
  {ds : List Declaration}

theorem collects_of_expandAll (expands : s.expandAll ts l = (.ok names, l', notes)) :
    Collects s.expand ts l names l' := by
  rw [ModuleScan.expandAll] at expands
  induction ts generalizing l names notes with
  | nil =>
      cases expands
      exact .done _
  | cons t ts ih =>
      rw [Step.inTurn] at expands
      rcases first : s.expand t l with ⟨f | ms, l₁, before⟩
      · rw [first] at expands
        cases expands
      · rcases rest : Step.inTurn s.expand ts l₁ with ⟨f | more, l₂, after⟩
        · simp only [first, Step.andThen, rest] at expands
          cases expands
        · simp only [first, Step.andThen, rest] at expands
          cases expands
          exact .target first (ih rest)

/-- The first module of a target is the target. -/
theorem mem_of_expand {t : String} {ms : List String}
    (expands : s.expand t l = (.ok ms, l', notes)) : t ∈ ms := by
  rw [ModuleScan.expand] at expands
  cases loads : s.codebase.load t l with
  | mk r l₁ =>
      rw [loads] at expands
      cases r with
      | error f => cases expands
      | ok _ =>
          obtain ⟨rest, -, rfl⟩ := Step.of_andThen_ok (congrArg Prod.fst expands)
          exact List.mem_cons_self ..

/-- The modules that were collected are those of the targets. -/
theorem Collects.targets (collects : Collects s.expand ts l names l') : ∀ t ∈ ts, ∃ ms,
    (∃ before after notes, s.expand t before = (.ok ms, after, notes)) ∧ t ∈ ms ∧
      ∀ n ∈ ms, n ∈ names := by
  generalize expanding : s.expand = expand at collects
  induction collects with
  | done l => exact nofun
  | target expands _ ih =>
      subst expanding
      refine List.forall_mem_cons.2 ⟨⟨_, ⟨_, _, _, expands⟩, mem_of_expand expands,
        fun n => List.mem_append_left _⟩, fun t member => ?_⟩
      obtain ⟨ms, expands', isFirst, all⟩ := ih t member
      exact ⟨ms, expands', isFirst, fun n isModule => List.mem_append_right _ (all n isModule)⟩

/-- What is collected for a scope. -/
def Collected (s : ModuleScan) (packages : List String) (ds : List Declaration) : Prop :=
  ∃ before names l, Collects s.expand (s.extra ++ packages) before names l ∧
    ds = canonical (gathered l names)

theorem collected_of_collect (collects : s.collect packages = (.ok ds, l, notes)) :
    Collected s packages ds := by
  unfold ModuleScan.collect at collects
  rcases expands : s.expandAll (s.extra ++ packages) s.loaded with ⟨f | names, l₁, before⟩
  · rw [expands] at collects
    cases collects
  · rw [expands] at collects
    simp only [List.flatMap_map] at collects
    cases collects
    exact ⟨_, names, l, collects_of_expandAll expands, rfl⟩

/-- Nothing but an expansion can keep a scope from being collected. -/
theorem collect_of_expandAll
    (expands : s.expandAll (s.extra ++ packages) s.loaded = (.ok names, l, notes)) :
    ∃ ds l' notes', s.collect packages = (.ok ds, l', notes') := by
  rw [ModuleScan.collect, expands]
  exact ⟨_, _, _, rfl⟩

end Collects

/-! ## Scans that remember -/

def ModuleScan.Remembers (s : ModuleScan) : Prop :=
  ∀ packages ds, s.found.lookup packages = some ds → Collected s packages ds

/-- A scan in use: it was asked for declarations and looked up names. -/
inductive Reached (new : ModuleScan) : ModuleScan → Prop
  | new : Reached new new
  | asked {s : ModuleScan} (packages : List String) :
      Reached new s → Reached new (s.declarations packages).2.1
  | looked {s : ModuleScan} (module name : String) :
      Reached new s → Reached new (s.declarationsOf module name).2.1

section Remembering

variable {s new : ModuleScan} {packages : List String}

/-- How a scan answers, and what it remembers. -/
theorem declarations_cases (s : ModuleScan) (packages : List String) :
    (∃ ds, s.found.lookup packages = some ds ∧ s.declarations packages = (.ok ds, s, [])) ∨
      s.found.lookup packages = none ∧
        ((∃ f l notes, s.declarations packages = (.error f, { s with loaded := l }, notes)) ∨
          ∃ ds l notes, s.collect packages = (.ok ds, l, notes) ∧ s.declarations packages =
            (.ok ds, { s with loaded := l, found := s.found ++ [(packages, ds)] }, notes)) := by
  rw [ModuleScan.declarations]
  cases known : s.found.lookup packages with
  | some ds => exact .inl ⟨ds, rfl, rfl⟩
  | none =>
      refine .inr ⟨rfl, ?_⟩
      rcases s.collect packages with ⟨f | ds, l, notes⟩
      · exact .inl ⟨f, l, notes, rfl⟩
      · exact .inr ⟨ds, l, notes, rfl, rfl⟩

/-- **One question**: a scan that remembers what it collected still does. -/
theorem ModuleScan.Remembers.asked (remembers : s.Remembers) (packages : List String) :
    (s.declarations packages).2.1.Remembers := by
  rcases declarations_cases s packages with ⟨ds, -, answer⟩ |
    ⟨unknown, ⟨f, l, notes, answer⟩ | ⟨ds, l, notes, collects, answer⟩⟩
  · rw [answer]
    exact remembers
  · rw [answer]
    exact remembers
  · rw [answer]
    intro scope ds' found
    rw [List.lookup_append] at found
    cases known : s.found.lookup scope with
    | some ds₀ =>
        rw [known] at found
        cases found
        exact remembers scope ds' known
    | none =>
        rw [known, Option.none_or, List.lookup_cons] at found
        split at found
        · next same =>
            cases found
            rw [eq_of_beq same]
            have collected : Collected s packages ds := collected_of_collect collects
            exact collected
        · cases found

/-- Looking up a name changes nothing that is remembered. -/
theorem ModuleScan.Remembers.looked (remembers : s.Remembers) (module name : String) :
    (s.declarationsOf module name).2.1.Remembers := by
  unfold ModuleScan.declarationsOf
  rcases s.codebase.load module s.loaded with ⟨f | _, l⟩ <;> exact remembers

/-- **A run of questions**, from the step: a scan in use remembers what it collected. -/
theorem Reached.remembers (isNew : new.found = []) (reached : Reached new s) : s.Remembers := by
  induction reached with
  | new =>
      intro packages ds found
      rw [isNew] at found
      cases found
  | asked packages _ ih => exact ih.asked packages
  | looked module name _ ih => exact ih.looked module name

/-- A scan in use answers for a scope that it remembers, or whose targets it can expand. -/
theorem Reached.collected (isNew : new.found = []) (reached : Reached new s)
    (expands : s.found.lookup packages = none → ∃ names l notes,
      s.expandAll (s.extra ++ packages) s.loaded = (.ok names, l, notes)) :
    ∃ ds notes, s.declarations packages = (.ok ds, (s.declarations packages).2.1, notes) ∧
      Collected s packages ds := by
  rcases declarations_cases s packages with ⟨ds, known, answer⟩ | ⟨unknown, failed | collected⟩
  · exact ⟨ds, [], by rw [answer], reached.remembers isNew packages ds known⟩
  · obtain ⟨names, l, notes, expands⟩ := expands unknown
    obtain ⟨ds, l', notes', collects⟩ := collect_of_expandAll expands
    obtain ⟨f, l, notes, failed⟩ := failed
    rw [ModuleScan.declarations, unknown, collects] at failed
    cases failed
  · obtain ⟨ds, l, notes, collects, answer⟩ := collected
    exact ⟨ds, notes, by rw [answer], collected_of_collect collects⟩

end Remembering

/-! ## Answers -/

/-- The answer of a scan that has collected modules. -/
structure Answered (packages : List String) (t : MarkerType) (kind : ElementKind) (l : Loaded)
    (names : List String) (answer : List Declaration) : Prop where
  /-- The answer holds what was kept, of the kind, with the marker and in the scope. -/
  exactly : ∀ d, d ∈ answer ↔ IsFirst (gathered l names) d ∧ d.kind = kind ∧ d.hasMarker t ∧
    ∃ m, d.package = .ok (some m) ∧ inScope m packages
  once : answer.Pairwise fun a b => signature a ≠ signature b
  /-- For all that a class of the modules declares in the scope, a declaration of its full name and
  kind was kept; it is in the answer if it lies in the scope itself and carries the marker. -/
  complete : ∀ n ∈ names, ∀ cls, Defines l n cls → ∀ d ∈ cls.declarations.1,
    d.kind = kind → d.hasMarker t → inScope n packages →
      ∃ e, IsFirst (gathered l names) e ∧ signature e = signature d ∧
        (e.hasMarker t → (∃ m, e.package = .ok (some m) ∧ inScope m packages) → e ∈ answer)
  /-- Nothing lies outside of a scope that is not empty. -/
  narrow : packages ≠ [] → ∀ d ∈ answer, ∃ m, d.package = .ok (some m) ∧
    ∃ p ∈ packages, isWithin m p

section Answers

variable {packages names : List String} {t : MarkerType} {kind : ElementKind} {l : Loaded}
  {d e : Declaration}

theorem kind_eq_of_signature (same : signature e = signature d) : e.kind = d.kind := by
  have kind (d : Declaration) : (signature d).kind = d.kind := by
    rw [signature]
    split <;> rfl
  rw [← kind e, ← kind d, same]

/-- The answer from what was kept. -/
theorem select_canonical (packages : List String) (t : MarkerType) (kind : ElementKind) (l : Loaded)
    (names : List String) : ∃ answer,
    Declaration.select kind t packages (canonical (gathered l names)) = .ok answer ∧
      Answered packages t kind l names answer := by
  have placed : ∀ d ∈ canonical (gathered l names), d.IsPlaced := fun d isKept =>
    isPlaced_of_mem_gathered (mem_canonical.1 isKept).mem
  have exactly : ∀ d, d ∈ (canonical (gathered l names)).filter
      (Discovery.isSelected kind t packages) ↔ IsFirst (gathered l names) d ∧ d.kind = kind ∧
        d.hasMarker t ∧ ∃ m, d.package = .ok (some m) ∧ inScope m packages := by
    intro d
    rw [List.mem_filter, mem_canonical]
    refine and_congr_right fun first => ?_
    obtain ⟨m, package⟩ := isPlaced_of_mem_gathered first.mem
    have isIn : Discovery.isIn packages d = inScope m packages := by
      rw [Discovery.isIn, Declaration.isInScope, package]
      rfl
    rw [Discovery.isSelected, isIn, Bool.and_eq_true, Bool.and_eq_true, decide_eq_true_iff,
      and_assoc]
    simp [package]
  refine ⟨_, Declaration.select_placed placed, exactly, ?_, ?_, ?_⟩
  · exact (canonical_once _).filter _
  · intro n isModule cls defines d declares isKind marked inside
    obtain ⟨e, first, same⟩ := exists_isFirst (mem_gathered.2 ⟨n, isModule, cls, defines, declares⟩)
    refine ⟨e, first, same, fun marked' inside' => (exactly e).2 ⟨first, ?_, marked', inside'⟩⟩
    exact (kind_eq_of_signature same).trans isKind
  · intro some d found
    obtain ⟨-, -, -, m, package, inside⟩ := (exactly d).1 found
    exact ⟨m, package, (inScope_eq_true.1 inside).resolve_left some⟩

/-- A question about a scope that is not remembered. -/
theorem query_new {s : ModuleScan} {notes : Journal} {ds : List Declaration}
    (isNew : s.found.lookup packages = none)
    (expands : s.expandAll (s.extra ++ packages) s.loaded = (.ok names, l, notes))
    (kept : canonical (gathered l names) = ds) (t : MarkerType) (kind : ElementKind) :
    ((Scanner.modules s).query t kind packages).1 = Declaration.select kind t packages ds := by
  rw [Scanner.query_modules, ModuleScan.declarations, isNew, ModuleScan.collect, expands]
  simp only [List.flatMap_map]
  exact congrArg (Declaration.select kind t packages) kept

/-- **Further modules are collected with the scope, and answered with it.**  A scan in use answers
a question when it remembers the scope or can expand its targets, the further modules and the
packages.  It has then collected the modules of all of them, and it answers with what it kept of
the kind, with the marker and in the scope: everything if the scope is empty, and else nothing that
lies in none of the packages, whether or not it was told to scan it. -/
theorem modules_answer {new s : ModuleScan} (isNew : new.found = []) (reached : Reached new s)
    (expands : s.found.lookup packages = none → ∃ names l notes,
      s.expandAll (s.extra ++ packages) s.loaded = (.ok names, l, notes))
    (t : MarkerType) (kind : ElementKind) :
    ∃ answer notes before names l,
      (Scanner.modules s).query t kind packages =
        (.ok answer, .modules (s.declarations packages).2.1, notes) ∧
      Collects s.expand (s.extra ++ packages) before names l ∧
      (∀ target ∈ s.extra ++ packages, ∃ ms,
        (∃ before after notes, s.expand target before = (.ok ms, after, notes)) ∧ target ∈ ms ∧
          ∀ n ∈ ms, n ∈ names) ∧
      Answered packages t kind l names answer := by
  obtain ⟨ds, notes, asked, before, names, l, collects, rfl⟩ := reached.collected isNew expands
  obtain ⟨answer, selected, answered⟩ := select_canonical packages t kind l names
  refine ⟨answer, notes, before, names, l, ?_, collects, collects.targets, answered⟩
  rw [Scanner.query_modules, asked]
  exact Prod.ext selected rfl

end Answers

namespace Sample

def service : MarkerType := .derive .root 3 "Service" (some "sample") (some (.kind .type))

def moduleWith (module name : String) : ModuleSpec where
  name := module
  classes := [{ name, qualname := name, module, markers := [.mk service []] }]

def classOf (module name : String) : ScannedClass where
  module := module
  qualname := name
  markers := [.mk service []]
  members := []
  fields := []
  unresolved := false

def declared (module name : String) : Declaration where
  kind := .type
  owner := (classOf module name).value
  markers := [.mk service []]

/-- A scan of a package that is told to scan a module beside it. -/
def beside : ModuleScan where
  codebase := { modules := [moduleWith "a.tools" "Tool", moduleWith "b" "Shop"] }
  extra := ["a.tools"]

def loadedFor (packages : List String) : Loaded := (beside.expandAll ("a.tools" :: packages) {}).2.1

theorem collected_beside : canonical (gathered (loadedFor []) ["a.tools"]) =
    [declared "a.tools" "Tool"] := by
  have single : ordered ["a.tools"] = ["a.tools"] := List.mergeSort_of_pairwise (by decide)
  rw [gathered, single]
  exact List.mergeSort_of_pairwise (List.pairwise_singleton _ _)

theorem collected_both : canonical (gathered (loadedFor ["b"]) ["a.tools", "b"]) =
    [declared "a.tools" "Tool", declared "b" "Shop"] := by
  have rising : ordered ["a.tools", "b"] = ["a.tools", "b"] :=
    List.mergeSort_of_pairwise (by decide +kernel)
  have once : [declared "a.tools" "Tool", declared "b" "Shop"].foldl keepNew [] =
      [declared "a.tools" "Tool", declared "b" "Shop"] := by rfl
  rw [gathered, rising, canonical_eq]
  refine .trans (congrArg (List.mergeSort · _) once) (List.mergeSort_of_pairwise ?_)
  decide +kernel

/-- The further module is in the answer for the empty scope. -/
theorem modules_answer_beside :
    beside.found = [] ∧
      beside.expandAll (beside.extra ++ []) beside.loaded = (.ok ["a.tools"], loadedFor [], []) ∧
      ∃ answer notes before names l,
        (Scanner.modules beside).query service .type [] =
          (.ok answer, .modules (beside.declarations []).2.1, notes) ∧
        Collects beside.expand ["a.tools"] before names l ∧ "a.tools" ∈ names ∧
        Answered [] service .type l names answer ∧ answer = [declared "a.tools" "Tool"] := by
  have expands : beside.expandAll (beside.extra ++ []) beside.loaded =
      (.ok ["a.tools"], loadedFor [], []) := by rfl
  obtain ⟨answer, notes, before, names, l, asked, collects, targets, answered⟩ :=
    modules_answer (s := beside) rfl .new (fun _ => ⟨_, _, _, expands⟩) service .type
  obtain ⟨ms, -, isFirst, all⟩ := targets "a.tools" (List.mem_cons_self ..)
  refine ⟨rfl, expands, answer, notes, before, names, l, asked, collects, all _ isFirst, answered,
    ?_⟩
  have query := query_new rfl expands collected_beside service .type
  rw [asked] at query
  exact Except.ok.inj (query.trans rfl)

/-- For a scope beside it, the further module is imported and its class is left out. -/
theorem further_module_left_out :
    beside.expandAll (beside.extra ++ ["b"]) {} = (.ok ["a.tools", "b"], loadedFor ["b"], []) ∧
      Defines (loadedFor ["b"]) "a.tools" (classOf "a.tools" "Tool") ∧
      declared "a.tools" "Tool" ∈ (classOf "a.tools" "Tool").declarations.1 ∧
      (declared "a.tools" "Tool").hasMarker service ∧
      ((Scanner.modules beside).query service .type ["b"]).1 = .ok [declared "b" "Shop"] := by
  have expands : beside.expandAll (beside.extra ++ ["b"]) beside.loaded =
      (.ok ["a.tools", "b"], loadedFor ["b"], []) := by rfl
  refine ⟨expands, ⟨⟨"Tool", List.mem_cons_self ..⟩, rfl⟩, List.mem_cons_self .., by decide, ?_⟩
  exact (query_new rfl expands collected_both service .type).trans rfl

end Sample

end Marking
