/-
# Marking.Proofs.Codebase.Walking -- walking through packages with modules that fail

A walk visits modules one after the other (`Chained`).  A visit imports its module, and imports it
once more if it is a package.  The second import repeats the first: it succeeds if that did, and
fails if that did (`Visit.repeated_of_imports`, `Visit.repeated_of_not_imports`).  What a walk
does is therefore settled by its visits (`Walked`), and a walk is put together from the visit of a
module, the walk below it, and the walk through the modules after it (`Walked.andThen`).

A module that fails does not end the scan, unless it is a package whose second import fails with
anything but an import error (`expanding_ends`); in the sample below such a package does
(`subpackage_ends_scan`).
-/
import Marking.Codebase.Scan
import Marking.Proofs.Codebase.Importing
import Mathlib.Data.List.Nodup
import Mathlib.Logic.Relation

set_option autoImplicit false

namespace Marking

open Loaded

/-! ## Visits -/

/-- A module that a walk comes to, and what is loaded by then. -/
structure Visit where
  name : String
  before : Loaded

namespace Visit

variable (c : Codebase) (v : Visit)

def attempt : Except Fault Unit × Loaded := c.load v.name v.before

def imports : Bool := (v.attempt c).1.isOk

/-- The second import, in order to look into a package. -/
def repeated : Except Fault Unit × Loaded := c.load v.name (v.attempt c).2

def after : Loaded := if c.isPackage v.name then (v.repeated c).2 else (v.attempt c).2

/-- The module is a package whose content is visited. -/
def opens : Bool := v.imports c && c.isPackage v.name

/-- The module is a package, and its second import ends the walk. -/
def Aborts (f : Fault) : Prop :=
  c.isPackage v.name ∧ (v.repeated c).1 = .error f ∧ ¬ f.isA .importing

def note : Journal := if v.imports c then [] else [ModuleScan.failedNote v.name]

variable {c v} {f : Fault}

theorem attempt_of_imports (imports : v.imports c) : v.attempt c = (.ok (), (v.attempt c).2) := by
  rw [Visit.imports] at imports
  cases ended : v.attempt c with
  | mk r l =>
      rw [ended] at imports
      cases r with
      | error f => cases imports
      | ok _ => rfl

theorem attempt_of_not_imports (fails : v.imports c = false) :
    ∃ f, v.attempt c = (.error f, (v.attempt c).2) := by
  rw [Visit.imports] at fails
  cases ended : v.attempt c with
  | mk r l =>
      rw [ended] at fails
      cases r with
      | error f => exact ⟨f, rfl⟩
      | ok _ => cases fails

theorem repeated_of_imports (imports : v.imports c) : v.repeated c = (.ok (), (v.attempt c).2) :=
  Codebase.load_again (attempt_of_imports imports)

theorem repeated_of_not_imports (settled : v.before.running = []) (fails : v.imports c = false) :
    ∃ f, v.repeated c = (.error f, (v.repeated c).2) := by
  obtain ⟨f, failed⟩ := attempt_of_not_imports fails
  obtain ⟨f', l, again⟩ := Codebase.load_fails_again settled failed
  have again : v.repeated c = (.error f', l) := again
  exact ⟨f', again.trans (by rw [again])⟩

theorem grows (c : Codebase) (v : Visit) : Grows v.before (v.after c) := by
  have first := c.load_grows v.name v.before
  rw [after]
  split
  · exact first.trans (c.load_grows v.name _)
  · exact first

end Visit

inductive Chained (c : Codebase) : Loaded → List Visit → Loaded → Prop
  | done (l : Loaded) : Chained c l [] l
  | visit {v : Visit} {vs : List Visit} {l' : Loaded} :
      Chained c (v.after c) vs l' → Chained c v.before (v :: vs) l'

namespace Chained

variable {c : Codebase} {l l₁ l' : Loaded} {us vs : List Visit}

theorem append (first : Chained c l us l₁) (second : Chained c l₁ vs l') :
    Chained c l (us ++ vs) l' := by
  induction first with
  | done l => exact second
  | visit _ ih => exact .visit (ih second)

theorem grows (chained : Chained c l us l') : Grows l l' := by
  induction chained with
  | done l => exact .refl l
  | @visit v vs l' _ ih => exact (v.grows c).trans ih

end Chained

/-! ## Where a walk leads -/

def namesOf (visits : List Visit) : List String := visits.map Visit.name

/-- The module is another one, or lies below it. -/
def Under (c : Codebase) : String → String → Prop :=
  Relation.ReflTransGen fun p n => n ∈ c.children p

/-- A module below some modules, when the packages in between are opened. -/
inductive Opened (c : Codebase) (visits : List Visit) (roots : List String) : String → Prop
  | root {n : String} : n ∈ roots → Opened c visits roots n
  | child {v : Visit} {n : String} : v ∈ visits → v.opens c → Opened c visits roots v.name →
      n ∈ c.children v.name → Opened c visits roots n

section Names

variable {c : Codebase} {a b p x : String} {roots roots' : List String} {us vs : List Visit}

theorem Under.length_le (under : Under c a x) : a.length ≤ x.length := by
  induction under with
  | refl => exact Nat.le_refl _
  | tail _ child ih =>
      exact Nat.le_trans ih (Nat.le_of_lt (Codebase.length_lt_of_mem_children child))

/-- No two modules beside each other lie one below the other. -/
theorem Under.eq_of_siblings (under : Under c a b) (isChild : a ∈ c.children p)
    (isSibling : b ∈ c.children p) : a = b := by
  cases under with
  | refl => rfl
  | tail above child =>
      obtain ⟨-, rfl, -⟩ := Codebase.mem_children.1 child
      obtain ⟨-, rfl, -⟩ := Codebase.mem_children.1 isSibling
      have deeper := Codebase.length_lt_of_mem_children isChild
      exact absurd (Under.length_le above) (Nat.not_le_of_lt deeper)

/-- Nothing lies below two modules beside each other. -/
theorem Under.siblings (first : Under c a x) (second : Under c b x) (isChild : a ∈ c.children p)
    (isSibling : b ∈ c.children p) : a = b := by
  have oneParent : Relator.RightUnique fun n p => n ∈ c.children p := fun _ _ _ above above' =>
    (Codebase.mem_children.1 above).2.1.symm.trans (Codebase.mem_children.1 above').2.1
  rcases Relation.ReflTransGen.total_of_right_unique oneParent
      (Relation.reflTransGen_swap.2 first) (Relation.reflTransGen_swap.2 second) with up | up
  · exact (Under.eq_of_siblings (Relation.reflTransGen_swap.1 up) isSibling isChild).symm
  · exact Under.eq_of_siblings (Relation.reflTransGen_swap.1 up) isChild isSibling

theorem Opened.under (opened : Opened c us roots x) : ∃ r ∈ roots, Under c r x := by
  induction opened with
  | root isRoot => exact ⟨_, isRoot, .refl⟩
  | child _ _ _ child ih =>
      obtain ⟨r, isRoot, under⟩ := ih
      exact ⟨r, isRoot, under.tail child⟩

theorem Opened.mono (opened : Opened c us roots x) (more : ∀ v ∈ us, v ∈ vs)
    (roots_opened : ∀ r ∈ roots, Opened c vs roots' r) : Opened c vs roots' x := by
  induction opened with
  | root isRoot => exact roots_opened _ isRoot
  | child visited opens _ child ih => exact .child (more _ visited) opens ih child

end Names

/-! ## Steps of a walk -/

namespace ModuleScan

section Step

variable {names all : List String} {l : Loaded} {notes : Journal} {f : Fault}
  {next : Loaded → Step (List String)}

theorem Step.of_andThen_ok (returned : (Step.andThen (.ok names, l, notes) next).1 = .ok all) :
    ∃ rest, (next l).1 = .ok rest ∧ all = names ++ rest := by
  cases ended : (next l).1 with
  | error f =>
      simp only [andThen, ended] at returned
      cases returned
  | ok rest =>
      simp only [andThen, ended] at returned
      cases returned
      exact ⟨rest, rfl, rfl⟩

theorem Step.of_andThen_error (failed : (Step.andThen (.ok names, l, notes) next).1 = .error f) :
    (next l).1 = .error f := by
  cases ended : (next l).1 with
  | error f' =>
      simp only [andThen, ended] at failed
      cases failed
      rfl
  | ok rest =>
      simp only [andThen, ended] at failed
      cases failed

end Step

end ModuleScan

open ModuleScan

def Visit.step (c : Codebase) (v : Visit) : Step (List String) :=
  (match c.isPackage v.name, (v.repeated c).1 with
    | true, .error f => if f.isA .importing then .ok [] else .error f
    | _, _ => .ok (if v.imports c then [v.name] else []),
   v.after c, v.note c)

theorem Visit.step_cases (c : Codebase) (v : Visit) :
    (∃ f, v.Aborts c f ∧ v.imports c = false ∧ v.step c = (.error f, v.after c, v.note c)) ∨
      (∀ f, ¬ v.Aborts c f) ∧
        v.step c = (.ok (if v.imports c then [v.name] else []), v.after c, v.note c) := by
  rw [step]
  cases isPackage : c.isPackage v.name with
  | false => exact .inr ⟨fun f aborts => Bool.false_ne_true (isPackage.symm.trans aborts.1), rfl⟩
  | true =>
      cases again : (v.repeated c).1 with
      | ok _ =>
          refine .inr ⟨fun f aborts => ?_, rfl⟩
          cases again.symm.trans aborts.2.1
      | error f =>
          have fails : v.imports c = false := Bool.eq_false_iff.2 fun imports => by
            rw [repeated_of_imports imports] at again
            cases again
          simp only [fails]
          by_cases importing : f.isA .importing
          · rw [if_pos importing]
            refine .inr ⟨fun f' aborts => ?_, rfl⟩
            cases again.symm.trans aborts.2.1
            exact aborts.2.2 importing
          · rw [if_neg importing]
            exact .inl ⟨f, ⟨isPackage, again, importing⟩, trivial, rfl⟩

/-- **One step**: the module is visited, and then what is below it if it opens. -/
theorem visit_eq (c : Codebase) (depth : Nat) (v : Visit) (settled : v.before.running = []) :
    ModuleScan.visit c (depth + 1) v.name v.before = (v.step c).andThen fun l =>
      if v.opens c then Step.inTurn (ModuleScan.visit c depth) (c.children v.name) l
      else (.ok [], l, []) := by
  have first : c.load v.name v.before = v.attempt c := rfl
  have second : c.load v.name (v.attempt c).2 = v.repeated c := rfl
  rw [ModuleScan.visit, first]
  cases imports : v.imports c with
  | true =>
      rw [Visit.attempt_of_imports imports]
      simp only [Step.andThen, second, Visit.step, Visit.note, Visit.opens, Visit.after, imports,
        Visit.repeated_of_imports imports]
      cases c.isPackage v.name <;> rfl
  | false =>
      obtain ⟨f, fails⟩ := Visit.attempt_of_not_imports imports
      obtain ⟨f', fails'⟩ := Visit.repeated_of_not_imports settled imports
      rw [fails]
      simp only [Step.andThen, second, Visit.step, Visit.note, Visit.opens, Visit.after, imports]
      cases c.isPackage v.name with
      | false => rfl
      | true =>
          rw [if_pos rfl, if_pos rfl, fails']
          by_cases importing : f'.isA .importing
          · simp only [importing, if_true]
            rfl
          · simp only [importing]
            rfl

/-! ## Walks -/

/-- What has been visited leads to nothing else, but for what is still to be visited. -/
structure Closed (c : Codebase) (roots pending : List String) (visits : List Visit) : Prop where
  roots : ∀ n ∈ roots, n ∈ namesOf visits
  children : ∀ v ∈ visits, v.opens c → ∀ n ∈ c.children v.name, n ∈ namesOf visits ∨ n ∈ pending

/-- What a walk that visits these modules has done, and what it has to go on to. -/
structure Walked (c : Codebase) (roots pending : List String) (l : Loaded) (visits : List Visit)
    (step : Step (List String)) : Prop where
  chained : Chained c l visits step.2.1
  notes : step.2.2 = visits.flatMap (Visit.note c)
  opened : ∀ v ∈ visits, Opened c visits roots v.name
  distinct : (namesOf visits).Nodup
  /-- A walk that comes to its end returns the modules that import. -/
  returned : ∀ names, step.1 = .ok names →
    names = namesOf (visits.filter (Visit.imports c)) ∧ (∀ v ∈ visits, ∀ f, ¬ v.Aborts c f) ∧
      Closed c roots pending visits
  /-- A walk that does not fails as its last visit does. -/
  failed : ∀ f, step.1 = .error f → ∃ before v, visits = before ++ [v] ∧ v.Aborts c f ∧
    ∀ u ∈ before, ∀ f', ¬ u.Aborts c f'

section Walks

variable {c : Codebase} {n p : String} {roots pending more all ns : List String} {l : Loaded}
  {visits us : List Visit} {v : Visit} {first : Step (List String)}
  {next : Loaded → Step (List String)}

theorem mem_namesOf_append {vs : List Visit} :
    n ∈ namesOf (us ++ vs) ↔ n ∈ namesOf us ∨ n ∈ namesOf vs := by
  rw [namesOf, List.map_append, List.mem_append, namesOf, namesOf]

theorem Opened.mem_namesOf (closed : Closed c roots [] visits) (opened : Opened c visits roots n) :
    n ∈ namesOf visits := by
  cases opened with
  | root isRoot => exact closed.roots n isRoot
  | child visited opens _ child =>
      exact (closed.children _ visited opens n child).resolve_right List.not_mem_nil

theorem mem_below : n ∈ (if v.opens c then c.children v.name else []) ↔
    v.opens c ∧ n ∈ c.children v.name := by
  cases v.opens c <;> simp

namespace Walked

theorem nil (c : Codebase) (l : Loaded) : Walked c [] [] l [] (.ok [], l, []) where
  chained := .done l
  notes := rfl
  opened := nofun
  distinct := List.nodup_nil
  returned names isEmpty := by
    cases isEmpty
    exact ⟨rfl, nofun, nofun, nofun⟩
  failed := nofun

/-- The visit of a module; what is below it is still to be visited if it opens. -/
theorem visit (c : Codebase) (v : Visit) :
    Walked c [v.name] (if v.opens c then c.children v.name else []) v.before [v] (v.step c) := by
  rcases v.step_cases c with ⟨f, aborts, fails, same⟩ | ⟨sound, same⟩
  all_goals
    rw [same]
    refine ⟨.visit (.done _), (List.append_nil _).symm, ?_, List.nodup_singleton _, ?_, ?_⟩
    · exact List.forall_mem_singleton.2 (.root (List.mem_singleton_self _))
  · exact nofun
  · rintro f' failed
    cases failed
    exact ⟨[], v, rfl, aborts, nofun⟩
  · rintro names returned
    cases returned
    refine ⟨?_, List.forall_mem_singleton.2 sound, ?_, ?_⟩
    · rw [List.filter_singleton]
      cases v.imports c <;> rfl
    · exact List.forall_mem_singleton.2 (List.mem_singleton_self _)
    · refine List.forall_mem_singleton.2 fun opens n child => .inr ?_
      rw [if_pos opens]
      exact child
  · exact nofun

/-- A walk, and what it has to go on to unless it fails. -/
theorem andThen (one : Walked c roots pending l us first)
    (two : ∀ names, first.1 = .ok names → ∃ vs, Walked c more [] first.2.1 vs (next first.2.1))
    (apart : ∀ u ∈ us, ∀ r ∈ more, ¬ Under c r u.name) (goesOn : ∀ n ∈ pending, n ∈ more)
    (reaches : ∀ r ∈ more, Opened c us all r) (starts : ∀ r ∈ roots, r ∈ all)
    (covers : ∀ r ∈ all, r ∈ roots ∨ r ∈ more) :
    ∃ vs, Walked c all [] l vs (first.andThen next) := by
  have opened : ∀ u ∈ us, Opened c us all u.name := fun u visited =>
    (one.opened u visited).mono (fun _ => id) fun r isRoot => .root (starts r isRoot)
  obtain ⟨r, l₁, notes⟩ := first
  cases r with
  | error f => exact ⟨us, one.chained, one.notes, opened, one.distinct, nofun, one.failed⟩
  | ok names =>
      obtain ⟨vs, two⟩ := two names rfl
      obtain ⟨rfl, sound, closed⟩ := one.returned names rfl
      have left : ∀ u ∈ us, u ∈ us ++ vs := fun _ => List.mem_append_left _
      refine ⟨us ++ vs, one.chained.append two.chained, ?_, ?_, ?_, ?_, ?_⟩
      · rw [List.flatMap_append, ← one.notes, ← two.notes]
        rfl
      · refine List.forall_mem_append.2 ⟨fun u visited => ?_, fun u visited => ?_⟩
        · exact (opened u visited).mono left fun _ => .root
        · exact (two.opened u visited).mono (fun _ => List.mem_append_right _) fun r isMore =>
            (reaches r isMore).mono left fun _ => .root
      · rw [namesOf, List.map_append]
        refine one.distinct.append two.distinct fun x inFirst inSecond => ?_
        obtain ⟨u, visited, rfl⟩ := List.mem_map.1 inFirst
        obtain ⟨u', visited', isNamed⟩ := List.mem_map.1 inSecond
        obtain ⟨r, isMore, under⟩ := (two.opened u' visited').under
        exact apart u visited r isMore (isNamed ▸ under)
      · rintro names returned
        obtain ⟨after, ended, rfl⟩ := Step.of_andThen_ok returned
        obtain ⟨rfl, sound', closed'⟩ := two.returned after ended
        have goesOn' : ∀ n, n ∈ pending → n ∈ namesOf vs := fun n isPending =>
          closed'.roots n (goesOn n isPending)
        refine ⟨?_, List.forall_mem_append.2 ⟨sound, sound'⟩, fun r isRoot => ?_, ?_⟩
        · rw [List.filter_append, namesOf, namesOf, namesOf, List.map_append]
        · exact mem_namesOf_append.2 ((covers r isRoot).imp (closed.roots r) (closed'.roots r))
        · refine List.forall_mem_append.2 ⟨fun u visited opens n child => ?_,
            fun u visited opens n child => ?_⟩
          · exact .inl (mem_namesOf_append.2
              ((closed.children u visited opens n child).imp_right (goesOn' n)))
          · exact (closed'.children u visited opens n child).imp_left
              (mem_namesOf_append.2 ∘ .inr)
      · rintro f failed
        obtain ⟨before, u, rfl, aborts, sound'⟩ := two.failed f (Step.of_andThen_error failed)
        exact ⟨us ++ before, u, (List.append_assoc ..).symm, aborts,
          List.forall_mem_append.2 ⟨sound, sound'⟩⟩

end Walked

/-- **A walk** through modules beside each other, from the step. -/
theorem walk_walked (c : Codebase) (depth : Nat) (ns : List String) (p : String) (l : Loaded)
    (settled : l.running = []) (distinct : ns.Nodup) (siblings : ∀ n ∈ ns, n ∈ c.children p)
    (deep : c.longer p ≤ depth) :
    ∃ vs, Walked c ns [] l vs (Step.inTurn (ModuleScan.visit c depth) ns l) := by
  induction depth generalizing ns p l with
  | zero =>
      cases ns with
      | nil => exact ⟨[], .nil c l⟩
      | cons n ns =>
          have less := Codebase.longer_lt_of_mem_children (siblings n (List.mem_cons_self ..))
          exact absurd less (by omega)
  | succ depth below =>
      induction ns generalizing l with
      | nil => exact ⟨[], .nil c l⟩
      | cons n ns after =>
          obtain ⟨isChild, areChildren⟩ := List.forall_mem_cons.1 siblings
          obtain ⟨isNew, distinct⟩ := List.nodup_cons.1 distinct
          have less := Codebase.longer_lt_of_mem_children isChild
          let v : Visit := ⟨n, l⟩
          obtain ⟨us, one⟩ : ∃ us, Walked c [n] [] l us
              (ModuleScan.visit c (depth + 1) v.name v.before) := by
            rw [visit_eq c depth v settled]
            refine (Walked.visit c v).andThen (fun names _ => ?_) ?_ (fun _ => id)
              (fun r isMore => ?_) (fun _ => id) fun _ => .inl
            · split
              · exact below _ n _ ((v.grows c).running.trans settled) (c.children_nodup n)
                  (fun _ => id) (by omega)
              · exact ⟨[], .nil c _⟩
            · refine List.forall_mem_singleton.2 fun r isMore under => ?_
              have deeper := Codebase.length_lt_of_mem_children (mem_below.1 isMore).2
              exact Nat.not_le_of_lt deeper under.length_le
            · obtain ⟨opens, child⟩ := mem_below.1 isMore
              have isRoot : v.name ∈ [n] := List.mem_singleton_self _
              exact .child (List.mem_singleton_self v) opens (.root isRoot) child
          rw [Step.inTurn]
          refine one.andThen (fun names _ => ?_) (fun u visited r isMore under => ?_) nofun
            (fun r isMore => .root (List.mem_cons_of_mem n isMore)) ?_ fun r isRoot => ?_
          · exact after _ (one.chained.grows.running.trans settled) distinct areChildren
          · obtain ⟨m, isRoot, under'⟩ := (one.opened u visited).under
            rw [List.mem_singleton] at isRoot
            subst isRoot
            exact isNew (under'.siblings under isChild (areChildren r isMore) ▸ isMore)
          · exact List.forall_mem_singleton.2 (List.mem_cons_self ..)
          · exact (List.mem_cons.1 isRoot).imp_left List.mem_singleton.2

end Walks

/-! ## The modules of a target -/

/-- What lies directly below a target, if the scan walks through it. -/
def ModuleScan.below (s : ModuleScan) (target : String) : List String :=
  if s.recursive && s.codebase.isPackage target then s.codebase.children target else []

/-- What the modules of a target are, when a walk below it visits these modules. -/
structure Expanded (c : Codebase) (roots : List String) (target : String) (l : Loaded)
    (visits : List Visit) (step : Step (List String)) : Prop where
  chained : Chained c l visits step.2.1
  distinct : (namesOf visits).Nodup
  /-- Every module that fails is noted, and nothing else. -/
  notes : step.2.2 = visits.flatMap (Visit.note c)
  returns_iff : (∃ names, step.1 = .ok names) ↔ ∀ v ∈ visits, ∀ f, ¬ v.Aborts c f
  /-- The modules are the target and what imports below it. -/
  returned : ∀ names, step.1 = .ok names →
    names = target :: namesOf (visits.filter (Visit.imports c))
  /-- What is visited is all that lies below packages that import. -/
  visited : ∀ names, step.1 = .ok names →
    ∀ n, n ∈ namesOf visits ↔ Opened c visits roots n
  /-- A scan that is ended fails as the last visit does. -/
  failed : ∀ f, step.1 = .error f → ∃ before v, visits = before ++ [v] ∧ v.Aborts c f ∧
    ∀ u ∈ before, ∀ f', ¬ u.Aborts c f'
  /-- What imports is still loaded in the end. -/
  loaded : ∀ v ∈ visits, v.imports c → step.2.1.has v.name

section Targets

variable {c : Codebase} {roots : List String} {l l₁ : Loaded} {visits : List Visit}
  {s : ModuleScan} {target : String}

/-- Modules that import are loaded, and so are those above them. -/
theorem Chained.loaded_above {l' : Loaded} (chained : Chained c l visits l') :
    ∀ v ∈ visits, v.imports c → ∀ a ∈ Codebase.ancestry v.name, l'.has a := by
  induction chained with
  | done l => exact nofun
  | @visit v vs l' rest ih =>
      refine List.forall_mem_cons.2 ⟨fun imports a isAbove => ?_, ih⟩
      have here := Codebase.has_of_load (Visit.attempt_of_imports imports) a isAbove
      refine rest.grows.has a ?_
      rw [Visit.after, Visit.repeated_of_imports imports]
      split <;> exact here

theorem Chained.loaded {l' : Loaded} (chained : Chained c l visits l') :
    ∀ v ∈ visits, v.imports c → l'.has v.name := fun v visited imports =>
  chained.loaded_above v visited imports v.name (Codebase.mem_ancestry v.name)

theorem Walked.expanded {step : Step (List String)} (walked : Walked c roots [] l visits step) :
    Expanded c roots target l visits (Step.andThen (.ok [target], l, []) fun _ => step) where
  chained := walked.chained
  distinct := walked.distinct
  notes := walked.notes
  returns_iff := by
    constructor
    · rintro ⟨names, returned⟩
      obtain ⟨rest, ended, -⟩ := Step.of_andThen_ok returned
      exact (walked.returned rest ended).2.1
    · intro sound
      cases ended : step.1 with
      | ok rest => exact ⟨target :: rest, by simp only [Step.andThen, ended]; rfl⟩
      | error f =>
          obtain ⟨before, v, rfl, aborts, -⟩ := walked.failed f ended
          exact absurd aborts (sound v (List.mem_append_right _ (List.mem_singleton_self v)) f)
  returned names returned := by
    obtain ⟨rest, ended, rfl⟩ := Step.of_andThen_ok returned
    rw [(walked.returned rest ended).1]
    rfl
  visited names returned n := by
    obtain ⟨rest, ended, -⟩ := Step.of_andThen_ok returned
    refine ⟨fun visited => ?_, Opened.mem_namesOf (walked.returned rest ended).2.2⟩
    obtain ⟨v, isVisited, rfl⟩ := List.mem_map.1 visited
    exact walked.opened v isVisited
  failed f failed := walked.failed f (Step.of_andThen_error failed)
  loaded := walked.chained.loaded

/-- **A walk with modules that fail.**  The modules of a target that imports are the target and
what imports below it: every module whose packages below the target import is visited once, and a
module that fails is noted and left out.  Only a package can end the scan, whose import fails once
more and not with an import error. -/
theorem expanding_ends (settled : l.running = [])
    (imports : s.codebase.load target l = (.ok (), l₁)) :
    ∃ visits, Expanded s.codebase (s.below target) target l₁ visits (s.expand target l) := by
  have grows := s.codebase.load_grows target l
  rw [imports] at grows
  obtain ⟨visits, walked⟩ : ∃ visits, Walked s.codebase (s.below target) [] l₁ visits
      (if s.recursive && s.codebase.isPackage target then
        Step.inTurn (ModuleScan.visit s.codebase (s.codebase.names.length + 1))
          (s.codebase.children target) l₁
      else (.ok [], l₁, [])) := by
    rw [ModuleScan.below]
    split
    · exact walk_walked _ _ _ target l₁ (grows.running.trans settled)
        (s.codebase.children_nodup target) (fun _ => id)
        (Nat.le_succ_of_le (s.codebase.longer_le target))
    · exact ⟨[], .nil _ l₁⟩
  refine ⟨visits, ?_⟩
  rw [ModuleScan.expand, imports]
  exact walked.expanded

end Targets

namespace Sample

def market : ModuleScan where
  codebase :=
    { modules :=
        [{ name := "shop", isPackage := true },
         { name := "shop.a", raises := some (.foreign .runtime "no") },
         { name := "shop.sub", isPackage := true, raises := some (.foreign .importing "no") },
         { name := "shop.sub.deep" },
         { name := "shop.z" },
         { name := "stall.sub", isPackage := true, raises := some (.foreign .runtime "no") },
         { name := "stall.z" }] }

theorem children_shop : market.codebase.children "shop" = ["shop.a", "shop.sub", "shop.z"] :=
  Codebase.children_eq (by decide +kernel) (by decide +kernel)

theorem children_stall : market.codebase.children "stall" = ["stall.sub", "stall.z"] :=
  Codebase.children_eq (by decide +kernel) (by decide +kernel)

/-- A module that fails is left out, and so is a package that fails with an import error. -/
theorem expanding_ends_shop :
    ∃ l₁ visits, ({} : Loaded).running = [] ∧
      market.codebase.load "shop" {} = (.ok (), l₁) ∧
      Expanded market.codebase (market.below "shop") "shop" l₁ visits (market.expand "shop" {}) ∧
      (market.expand "shop" {}).1.toOption = some ["shop", "shop.z"] := by
  obtain ⟨l₁, imports⟩ : ∃ l₁, market.codebase.load "shop" {} = (.ok (), l₁) := ⟨_, rfl⟩
  obtain ⟨visits, expanded⟩ := expanding_ends (s := market) rfl imports
  refine ⟨l₁, visits, rfl, imports, expanded, ?_⟩
  rw [expand]
  simp only [children_shop]
  decide +kernel

/-- A package that fails with any other error ends the scan of a target that imports. -/
theorem subpackage_ends_scan :
    (market.codebase.load "stall" {}).1.isOk ∧ (market.expand "stall" {}).1.toOption = none := by
  refine ⟨by decide +kernel, ?_⟩
  rw [expand]
  simp only [children_stall]
  decide +kernel

end Sample

end Marking
