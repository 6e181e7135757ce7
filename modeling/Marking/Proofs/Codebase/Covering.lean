/-
# Marking.Proofs.Codebase.Covering -- the modules of a scope when every module imports

What is loaded at a question depends on what was imported before it (`Imported`).  When all
modules of the codebase import whatever that was (`AlwaysImports`), a scan of packages of the
codebase comes to its end, and it has scanned the packages and, if it walks, all that lies within
them, whatever their order and however often they are named (`expandAll_scans`).
-/
import Marking.Proofs.Codebase.Collecting
import Marking.Proofs.Codebase.Lineage

set_option autoImplicit false

namespace Marking

open Loaded ModuleScan

namespace Codebase

inductive Imported (c : Codebase) : Loaded → Prop
  | nothing : Imported c {}
  | load {l : Loaded} (name : String) : Imported c l → Imported c (c.load name l).2

/-- Whatever was imported before, no module of the codebase fails. -/
def AlwaysImports (c : Codebase) : Prop :=
  ∀ l, c.Imported l → ∀ n ∈ c.names, (c.load n l).1 = .ok ()

/-- A loaded module defines the same classes whatever was imported before. -/
def OrderFree (c : Codebase) : Prop :=
  ∀ l l', c.Imported l → c.Imported l' → ∀ n ∈ c.names, l.has n → l'.has n →
    ∀ cls, Defines l n cls ↔ Defines l' n cls

variable {c : Codebase} {l l' : Loaded} {n : String}

theorem Imported.settled (imported : c.Imported l) : l.running = [] := by
  induction imported with
  | nothing => rfl
  | load name _ ih => exact (c.load_grows name _).running.trans ih

theorem AlwaysImports.load_eq (imports : c.AlwaysImports) (imported : c.Imported l)
    (known : n ∈ c.names) : c.load n l = (.ok (), (c.load n l).2) :=
  Prod.ext (imports l imported n known) rfl

theorem AlwaysImports.ne_empty (imports : c.AlwaysImports) (known : n ∈ c.names) : n ≠ "" := by
  rintro rfl
  have failed := imports {} .nothing "" known
  cases failed

end Codebase

open Codebase

/-! ## Walks without failures -/

section Walk

variable {c : Codebase} {l l' : Loaded} {v : Visit} {vs : List Visit}

theorem Visit.imported_after (imported : c.Imported v.before) : c.Imported (v.after c) := by
  rw [Visit.after]
  split
  · exact .load _ (.load _ imported)
  · exact .load _ imported

theorem Chained.imported (chained : Chained c l vs l') (imported : c.Imported l) :
    c.Imported l' ∧ ∀ v ∈ vs, c.Imported v.before := by
  induction chained with
  | done l => exact ⟨imported, nofun⟩
  | visit _ ih =>
      obtain ⟨last, rest⟩ := ih (Visit.imported_after imported)
      exact ⟨last, List.forall_mem_cons.2 ⟨imported, rest⟩⟩

/-- Nothing happens when the modules and all above them are there. -/
theorem Chained.still (chained : Chained c l vs l')
    (there : ∀ v ∈ vs, ∀ a ∈ ancestry v.name, l.has a) : l' = l := by
  induction chained with
  | done l => rfl
  | @visit v vs l' _ ih =>
      obtain ⟨here, there⟩ := List.forall_mem_cons.1 there
      have attempted : (c.load v.name v.before).2 = v.before := load_of_has here
      have same : v.after c = v.before := by
        rw [Visit.after, Visit.repeated, Visit.attempt, attempted, attempted, ite_self]
      rw [same] at ih
      exact ih there

/-- A walk through what lies below a module visits and returns all of it. -/
theorem walk_all (imports : c.AlwaysImports) (imported : c.Imported l) (p : String) :
    ∃ names l' notes,
      Step.inTurn (ModuleScan.visit c (c.names.length + 1)) (c.children p) l =
        (.ok names, l', notes) ∧
      c.Imported l' ∧ Grows l l' ∧ (∀ n ∈ names, ∀ a ∈ ancestry n, l'.has a) ∧
      ∀ n, n ∈ names ↔ ∃ r ∈ c.children p, Under c r n := by
  obtain ⟨vs, walked⟩ := walk_walked c (c.names.length + 1) (c.children p) p l imported.settled
    (c.children_nodup p) (fun _ => id) (Nat.le_succ_of_le (c.longer_le p))
  obtain ⟨isImported, before⟩ := walked.chained.imported imported
  have isKnown : ∀ v ∈ vs, v.name ∈ c.names := by
    intro v visited
    obtain ⟨r, isRoot, under⟩ := (walked.opened v visited).under
    exact under.known (mem_children.1 isRoot).1
  have allImport : ∀ v ∈ vs, v.imports c := by
    intro v visited
    rw [Visit.imports, Visit.attempt, imports _ (before v visited) _ (isKnown v visited)]
    rfl
  rcases walk : Step.inTurn (ModuleScan.visit c (c.names.length + 1)) (c.children p) l with
    ⟨f | names, l', notes⟩
  · rw [walk] at walked
    obtain ⟨us, v, rfl, aborts, -⟩ := walked.failed f rfl
    have again := Visit.repeated_of_imports (allImport v (by simp))
    have failed := aborts.2.1
    rw [again] at failed
    cases failed
  · rw [walk] at walked isImported
    obtain ⟨returned, -, closed⟩ := walked.returned names rfl
    have whole : vs.filter (Visit.imports c) = vs := List.filter_eq_self.2 allImport
    rw [whole] at returned
    refine ⟨names, l', notes, rfl, isImported, walked.chained.grows, fun n member => ?_,
      fun n => ⟨fun member => ?_, ?_⟩⟩
    · rw [returned] at member
      obtain ⟨v, visited, rfl⟩ := List.mem_map.1 member
      exact walked.chained.loaded_above v visited (allImport v visited)
    · rw [returned] at member
      obtain ⟨v, visited, rfl⟩ := List.mem_map.1 member
      exact (walked.opened v visited).under
    · rintro ⟨r, isRoot, under⟩
      rw [returned]
      induction under with
      | refl => exact closed.roots r isRoot
      | tail _ child ih =>
          obtain ⟨v, visited, rfl⟩ := List.mem_map.1 ih
          have opens : v.opens c := by
            rw [Visit.opens, Bool.and_eq_true]
            refine ⟨allImport v visited, isPackage_of_mem_children ?_ child⟩
            exact imports.ne_empty (isKnown v visited)
          exact (closed.children v visited opens _ child).resolve_right List.not_mem_nil

end Walk

/-! ## The modules of a scope -/

/-- The modules that a scan of these targets looks at. -/
def ModuleScan.Scans (s : ModuleScan) (targets : List String) (n : String) : Prop :=
  n ∈ s.codebase.names ∧ ∃ t ∈ targets, n = t ∨ s.recursive ∧ isWithin n t

section Scans

variable {s : ModuleScan} {l : Loaded} {t n : String} {ts : List String}

theorem scans_cons : s.Scans (t :: ts) n ↔ s.Scans [t] n ∨ s.Scans ts n := by
  constructor
  · rintro ⟨known, u, member, inside⟩
    rcases List.mem_cons.1 member with rfl | later
    · exact .inl ⟨known, u, List.mem_singleton_self u, inside⟩
    · exact .inr ⟨known, u, later, inside⟩
  · rintro (⟨known, u, member, inside⟩ | ⟨known, u, later, inside⟩)
    · exact ⟨known, u, List.mem_singleton.1 member ▸ List.mem_cons_self, inside⟩
    · exact ⟨known, u, List.mem_cons_of_mem t later, inside⟩

/-- Expanding a target imports modules, and nothing else. -/
theorem expand_imported (imported : s.codebase.Imported l) :
    s.codebase.Imported (s.expand t l).2.1 := by
  have first := imported.load t
  rw [ModuleScan.expand]
  rcases loads : s.codebase.load t l with ⟨f | ⟨⟩, l₁⟩
  · rw [loads] at first
    exact first
  · rw [loads] at first
    simp only [Step.andThen]
    split
    · obtain ⟨vs, walked⟩ := walk_walked s.codebase (s.codebase.names.length + 1)
        (s.codebase.children t) t l₁ first.settled (s.codebase.children_nodup t) (fun _ => id)
        (Nat.le_succ_of_le (s.codebase.longer_le t))
      exact (walked.chained.imported first).1
    · exact first

theorem expandAll_imported (imported : s.codebase.Imported l) (ts : List String) :
    s.codebase.Imported (s.expandAll ts l).2.1 := by
  rw [ModuleScan.expandAll]
  induction ts generalizing l with
  | nil => exact imported
  | cons t ts ih =>
      have first : s.codebase.Imported (s.expand t l).2.1 := expand_imported imported
      rw [Step.inTurn]
      rcases expands : s.expand t l with ⟨f | names, l₁, notes⟩
      · rw [expands] at first
        exact first
      · rw [expands] at first
        exact ih first

/-- The modules of one target. -/
theorem expand_scans (imports : s.codebase.AlwaysImports) (imported : s.codebase.Imported l)
    (known : t ∈ s.codebase.names) :
    ∃ names l' notes, s.expand t l = (.ok names, l', notes) ∧ s.codebase.Imported l' ∧
      Grows l l' ∧ (∀ n ∈ names, ∀ a ∈ ancestry n, l'.has a) ∧ ∀ n, n ∈ names ↔ s.Scans [t] n := by
  have loads := imports.load_eq imported known
  have grows := s.codebase.load_grows t l
  have isImported := imported.load t
  have here : ∀ a ∈ ancestry t, (s.codebase.load t l).2.has a := has_of_load loads
  have scans : ∀ n, s.Scans [t] n ↔ n = t ∨ s.recursive ∧ Under s.codebase t n := by
    intro n
    rw [under_iff_isWithin (imports.ne_empty known) known]
    simp only [ModuleScan.Scans, List.mem_singleton, exists_eq_left]
    constructor
    · rintro ⟨isKnown, same | ⟨isRecursive, within⟩⟩
      · exact .inl same
      · exact .inr ⟨isRecursive, isKnown, within⟩
    · rintro (rfl | ⟨isRecursive, isKnown, within⟩)
      · exact ⟨known, .inl rfl⟩
      · exact ⟨isKnown, .inr ⟨isRecursive, within⟩⟩
  rw [ModuleScan.expand, loads]
  simp only [Step.andThen]
  by_cases walks : s.recursive && s.codebase.isPackage t
  · obtain ⟨names, l', notes, walk, isImported', grows', there, below⟩ :=
      walk_all imports isImported t
    obtain ⟨isRecursive, -⟩ := Bool.and_eq_true_iff.1 walks
    rw [if_pos walks, walk]
    refine ⟨t :: names, l', _, rfl, isImported', grows.trans grows', ?_, fun n => ?_⟩
    · exact List.forall_mem_cons.2 ⟨fun a isAbove => grows'.has a (here a isAbove), there⟩
    · rw [scans, List.mem_cons, below]
      constructor
      · rintro (same | ⟨r, child, under⟩)
        · exact .inl same
        · exact .inr ⟨isRecursive, under.head child⟩
      · rintro (same | ⟨-, under⟩)
        · exact .inl same
        · exact (Relation.ReflTransGen.cases_head under).imp_left Eq.symm
  · rw [if_neg walks]
    refine ⟨[t], _, _, rfl, isImported, grows, List.forall_mem_singleton.2 here, fun n => ?_⟩
    rw [scans, List.mem_singleton]
    refine ⟨.inl, fun h => h.elim id fun walked => ?_⟩
    obtain ⟨isRecursive, under⟩ := walked
    -- What is no package has nothing below it.
    rcases Relation.ReflTransGen.cases_head under with same | ⟨r, child, -⟩
    · exact same.symm
    · refine absurd ?_ walks
      rw [isRecursive, Bool.true_and]
      exact isPackage_of_mem_children (imports.ne_empty known) child

/-- **The modules of a scope** are those of its targets, in whatever order these come. -/
theorem expandAll_scans (imports : s.codebase.AlwaysImports) (ts : List String)
    (known : ∀ t ∈ ts, t ∈ s.codebase.names) (imported : s.codebase.Imported l) :
    ∃ names l' notes, s.expandAll ts l = (.ok names, l', notes) ∧ s.codebase.Imported l' ∧
      Grows l l' ∧ (∀ n ∈ names, ∀ a ∈ ancestry n, l'.has a) ∧ ∀ n, n ∈ names ↔ s.Scans ts n := by
  rw [ModuleScan.expandAll]
  induction ts generalizing l with
  | nil =>
      refine ⟨[], l, [], rfl, imported, .refl l, fun n member => ?_, fun n => ?_⟩
      · cases member
      · simp [ModuleScan.Scans]
  | cons t ts ih =>
      obtain ⟨first, rest⟩ := List.forall_mem_cons.1 known
      obtain ⟨names, l₁, notes, expands, imported₁, grows₁, here, scans⟩ :=
        expand_scans imports imported first
      obtain ⟨more, l₂, notes', expands', imported₂, grows₂, there, scans'⟩ := ih rest imported₁
      rw [Step.inTurn, expands]
      simp only [Step.andThen, expands']
      refine ⟨_, l₂, _, rfl, imported₂, grows₁.trans grows₂, ?_, fun n => ?_⟩
      · exact List.forall_mem_append.2
          ⟨fun n member a isAbove => grows₂.has a (here n member a isAbove), there⟩
      · rw [List.mem_append, scans, scans', ← scans_cons]

/-- Nothing happens when a target's modules and all above them are there. -/
theorem expand_still (imports : s.codebase.AlwaysImports) (settled : l.running = [])
    (known : t ∈ s.codebase.names) (there : ∀ n, s.Scans [t] n → ∀ a ∈ ancestry n, l.has a) :
    (s.expand t l).2.1 = l := by
  have here : (s.codebase.load t l).2 = l :=
    load_of_has (there t ⟨known, t, List.mem_singleton_self t, .inl rfl⟩)
  rw [ModuleScan.expand]
  rcases loads : s.codebase.load t l with ⟨f | ⟨⟩, l₁⟩ <;> rw [loads] at here <;> subst here
  · rfl
  · simp only [Step.andThen]
    split
    · next walks =>
        obtain ⟨vs, walked⟩ := walk_walked s.codebase (s.codebase.names.length + 1)
          (s.codebase.children t) t l₁ settled (s.codebase.children_nodup t) (fun _ => id)
          (Nat.le_succ_of_le (s.codebase.longer_le t))
        refine walked.chained.still fun v visited => there v.name ?_
        obtain ⟨r, child, under⟩ := (walked.opened v visited).under
        have below : Under s.codebase t v.name := under.head child
        rw [under_iff_isWithin (imports.ne_empty known) known] at below
        exact ⟨below.1, t, List.mem_singleton_self t, .inr ⟨(Bool.and_eq_true_iff.1 walks).1, below.2⟩⟩
    · rfl

theorem expandAll_still (imports : s.codebase.AlwaysImports) (settled : l.running = [])
    (known : ∀ t ∈ ts, t ∈ s.codebase.names)
    (there : ∀ n, s.Scans ts n → ∀ a ∈ ancestry n, l.has a) : (s.expandAll ts l).2.1 = l := by
  rw [ModuleScan.expandAll]
  induction ts with
  | nil => rfl
  | cons t ts ih =>
      obtain ⟨first, rest⟩ := List.forall_mem_cons.1 known
      have same : (s.expand t l).2.1 = l :=
        expand_still imports settled first fun n scanned => there n (scans_cons.2 (.inl scanned))
      have others := ih rest fun n scanned => there n (scans_cons.2 (.inr scanned))
      rw [Step.inTurn]
      rcases expands : s.expand t l with ⟨f | names, l₁, notes⟩ <;> rw [expands] at same <;>
        subst same
      · rfl
      · exact others

/-- Targets with the same members have the same modules. -/
theorem scans_congr {ts' : List String} (same : ∀ t, t ∈ ts ↔ t ∈ ts') :
    s.Scans ts n ↔ s.Scans ts' n := by
  simp only [ModuleScan.Scans, same]

end Scans

end Marking
