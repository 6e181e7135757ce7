/-
# Marking.Proofs.Codebase.Importing -- what an import changes, and importing again

An import is a run of tasks: modules are imported in turn, and a module body takes names from
other modules (`Carries`).  The depth that `Codebase.load` allows is never used up, so it always
carries out its task (`load_carries`).

An import adds to what is loaded, also when it fails, and leaves nothing running
(`Carries.grows`).  From this follows what a second import does.  A module that was imported is
there, and nothing happens (`load_again`).  A module that failed fails again, though not always
with the same fault (`load_fails_again`): the second import meets the modules that were imported
on the way as they are by now, and tries those that failed without the names that they had got, so
it comes as far as the first one at most.
-/
import Marking.Proofs.Codebase.Naming
import Mathlib.Data.Bool.Basic

set_option autoImplicit false

namespace Marking

/-! ## Lists of named things -/

section Named

variable {β : Type} {entries : List (String × β)} {name x : String} {v : β}

theorem any_name_eq : entries.any (fun b => b.1 == name) = (entries.lookup name).isSome := by
  induction entries with
  | nil => rfl
  | cons e entries ih => grind

theorem lookup_map_set :
    (entries.map fun b => if b.1 == name then (name, v) else b).lookup x =
      if x = name then (entries.lookup x).map fun _ => v else entries.lookup x := by
  induction entries with
  | nil => simp
  | cons e entries ih =>
      rw [List.map_cons]
      grind

/-- Setting what a name stands for, in its place or at the end. -/
theorem lookup_set :
    (if entries.any (fun b => b.1 == name) then
        entries.map fun b => if b.1 == name then (name, v) else b
      else entries ++ [(name, v)]).lookup x =
      if x = name then some v else entries.lookup x := by
  rw [any_name_eq]
  split
  · next known =>
      obtain ⟨w, found⟩ := Option.isSome_iff_exists.1 known
      rw [lookup_map_set]
      by_cases same : x = name
      · rw [if_pos same, if_pos same, same, found]
        rfl
      · rw [if_neg same, if_neg same]
  · next unknown =>
      rw [Option.not_isSome_iff_eq_none] at unknown
      rw [List.lookup_append]
      by_cases same : x = name
      · rw [if_pos same, same, unknown]
        simp
      · rw [if_neg same, List.lookup_cons, beq_eq_false_iff_ne.2 same]
        exact Option.or_none

theorem lookup_forget :
    (entries.filter fun b => b.1 != name).lookup x =
      if x = name then none else entries.lookup x := by
  induction entries with
  | nil => simp
  | cons e entries ih => grind

end Named

/-! ## Namespaces -/

namespace Namespace

variable {ns : Namespace} {name x : String} {bound : Option ScannedClass}

def Has (ns : Namespace) (x : String) : Prop := (ns.lookup x).isSome

@[simp] theorem has_bind : (ns.bind name bound).Has x ↔ x = name ∨ ns.Has x := by
  rw [Has, bind, lookup_set, Has]
  by_cases same : x = name <;> simp [same]

end Namespace

/-! ## What is loaded -/

namespace Loaded

variable {l l' l₁ l₂ : Loaded} {name n x : String} {ns : Namespace}

theorem has_eq : l.has n = (l.modules.lookup n).isSome := any_name_eq

theorem modules_put : (l.put name ns).modules.lookup n =
    if n = name then some ns else l.modules.lookup n := lookup_set

@[simp] theorem has_put : (l.put name ns).has n ↔ n = name ∨ l.has n := by
  rw [has_eq, modules_put, has_eq]
  by_cases same : n = name <;> simp [same]

theorem namespaceOf_put : (l.put name ns).namespaceOf n =
    if n = name then ns else l.namespaceOf n := by
  rw [namespaceOf, modules_put]
  by_cases same : n = name <;> simp [same, namespaceOf]

@[simp] theorem has_begin : (l.begin name).has n ↔ n = name ∨ l.has n := has_put

theorem namespaceOf_begin : (l.begin name).namespaceOf n =
    if n = name then [] else l.namespaceOf n := namespaceOf_put

@[simp] theorem running_begin : (l.begin name).running = name :: l.running := rfl

@[simp] theorem has_drop : (l.drop name).has n ↔ n ≠ name ∧ l.has n := by
  rw [has_eq, drop, lookup_forget, has_eq]
  by_cases same : n = name <;> simp [same]

theorem namespaceOf_drop (other : n ≠ name) : (l.drop name).namespaceOf n = l.namespaceOf n := by
  rw [namespaceOf, drop, lookup_forget, if_neg other, namespaceOf]

@[simp] theorem running_drop : (l.drop name).running = l.running.erase name := rfl

def Names (l : Loaded) (n x : String) : Prop := (l.namespaceOf n).Has x

/-- What is loaded is still loaded, has its names, and nothing else is running. -/
structure Grows (l l' : Loaded) : Prop where
  running : l'.running = l.running
  has : ∀ n, l.has n → l'.has n
  names : ∀ n x, l.has n → l.Names n x → l'.Names n x

theorem Grows.refl (l : Loaded) : Grows l l := ⟨rfl, fun _ => id, fun _ _ _ => id⟩

theorem Grows.trans (first : Grows l l₁) (second : Grows l₁ l₂) : Grows l l₂ where
  running := second.running.trans first.running
  has n here := second.has n (first.has n here)
  names n x here known := second.names n x (first.has n here) (first.names n x here known)

/-- A name more for a module. -/
theorem grows_bind {bound : Option ScannedClass} :
    Grows l (l.put name ((l.namespaceOf name).bind x bound)) where
  running := rfl
  has n here := has_put.2 (.inr here)
  names n y _ known := by
    rw [Names, namespaceOf_put]
    split
    · next same => exact Namespace.has_bind.2 (.inr (same ▸ known))
    · exact known

theorem grows_bindBelow : Grows l (l.bindBelow name) := by
  rw [bindBelow]
  split
  · exact .refl l
  · exact grows_bind

/-- A module that fails leaves what was loaded before it. -/
theorem Grows.drop (fresh : ¬ l.has name) (grows : Grows (l.begin name) l') :
    Grows l (l'.drop name) where
  running := by simp [grows.running]
  has n here := has_drop.2
    ⟨fun same => fresh (same ▸ here), grows.has n (has_begin.2 (.inr here))⟩
  names n x here known := by
    have other : n ≠ name := fun same => fresh (same ▸ here)
    rw [Names, namespaceOf_drop other]
    refine grows.names n x (has_begin.2 (.inr here)) ?_
    rw [Names, namespaceOf_begin, if_neg other]
    exact known

/-- A module that is completed leaves what was loaded before it, and is loaded itself. -/
theorem Grows.complete {m : ModuleSpec} (isNamed : m.name = name) (fresh : ¬ l.has name)
    (grows : Grows (l.begin name) l') : Grows l ((l'.complete m).bindBelow name) := by
  refine .trans ?_ grows_bindBelow
  subst isNamed
  constructor
  · show l'.running.erase m.name = _
    simp [grows.running]
  · exact fun n here => has_put.2 (.inr (grows.has n (has_begin.2 (.inr here))))
  · intro n x here known
    have other : n ≠ m.name := fun same => fresh (same ▸ here)
    have kept : l'.Names n x := by
      refine grows.names n x (has_begin.2 (.inr here)) ?_
      rw [Names, namespaceOf_begin, if_neg other]
      exact known
    show Namespace.Has (((l'.put m.name _).namespaceOf n)) x
    rw [namespaceOf_put, if_neg other]
    exact kept

theorem has_complete {m : ModuleSpec} : ((l.complete m).bindBelow name).has m.name :=
  grows_bindBelow.has _ (has_put.2 (.inl rfl))

end Loaded

namespace Codebase

open Loaded

variable {c : Codebase} {l l' l₁ l₂ k k' e : Loaded} {n into source name : String}
  {ns : List String} {r : Except Fault Unit} {f : Fault} {m : ModuleSpec}

/-! ### The tasks of an import -/

/-- What an import has to do: modules are imported, or names taken into a module. -/
inductive Task where
  | imports (names : List String)
  | takes (into : String) (names : List (String × String))

/-- A task is carried out: how it ends, and what is loaded then. -/
inductive Carries (c : Codebase) : Task → Loaded → Except Fault Unit → Loaded → Prop
  | imported (l : Loaded) : Carries c (.imports []) l (.ok ()) l
  /-- The module is there. -/
  | present {n : String} {ns : List String} {l l' : Loaded} {r : Except Fault Unit} :
      l.has n → Carries c (.imports ns) l r l' → Carries c (.imports (n :: ns)) l r l'
  | missing {n : String} {ns : List String} {l : Loaded} : ¬ l.has n → c.find? n = none →
      Carries c (.imports (n :: ns)) l (.error (c.missing n)) l
  | raises {n : String} {ns : List String} {l : Loaded} {m : ModuleSpec} {f : Fault} :
      ¬ l.has n → c.find? n = some m → m.raises = some f →
      Carries c (.imports (n :: ns)) l (.error f) l
  /-- The body fails. -/
  | fails {n : String} {ns : List String} {l l' : Loaded} {m : ModuleSpec} {f : Fault} :
      ¬ l.has n → c.find? n = some m → m.raises = none →
      Carries c (.takes n m.imports) (l.begin n) (.error f) l' →
      Carries c (.imports (n :: ns)) l (.error f) (l'.drop n)
  /-- The body runs to its end. -/
  | completes {n : String} {ns : List String} {l l₁ l' : Loaded} {m : ModuleSpec}
      {r : Except Fault Unit} : ¬ l.has n → c.find? n = some m → m.raises = none →
      Carries c (.takes n m.imports) (l.begin n) (.ok ()) l₁ →
      Carries c (.imports ns) ((l₁.complete m).bindBelow n) r l' →
      Carries c (.imports (n :: ns)) l r l'
  | taken (into : String) (l : Loaded) : Carries c (.takes into []) l (.ok ()) l
  /-- A module to take from cannot be imported. -/
  | blocked {into source name : String} {rest : List (String × String)} {l l' : Loaded}
      {f : Fault} : Carries c (.imports (ancestry source)) l (.error f) l' →
      Carries c (.takes into ((source, name) :: rest)) l (.error f) l'
  /-- A module to take from has no such name. -/
  | lacks {into source name : String} {rest : List (String × String)} {l l' : Loaded}
      {f : Fault} : Carries c (.imports (ancestry source)) l (.ok ()) l' →
      c.member l' source name = .error f →
      Carries c (.takes into ((source, name) :: rest)) l (.error f) l'
  | takes {into source name : String} {rest : List (String × String)} {l l₁ l' : Loaded}
      {bound : Option ScannedClass} {r : Except Fault Unit} :
      Carries c (.imports (ancestry source)) l (.ok ()) l₁ →
      c.member l₁ source name = .ok bound →
      Carries c (.takes into rest) (l₁.put into ((l₁.namespaceOf into).bind name bound)) r l' →
      Carries c (.takes into ((source, name) :: rest)) l r l'

/-- **What an import changes**, whether it succeeds or fails: it adds to what is loaded. -/
theorem Carries.grows {t : Task} (carried : Carries c t l r l') : Grows l l' := by
  induction carried with
  | imported l => exact .refl l
  | present _ _ ih => exact ih
  | missing _ _ => exact .refl _
  | raises _ _ _ => exact .refl _
  | fails fresh _ _ _ ih => exact ih.drop fresh
  | completes fresh found _ _ _ body rest =>
      exact (Grows.complete (find?_name found) fresh body).trans rest
  | taken _ l => exact .refl l
  | blocked _ ih => exact ih
  | lacks _ _ ih => exact ih
  | takes _ _ _ source rest => exact (source.trans grows_bind).trans rest

/-- Modules that were imported are loaded. -/
theorem Carries.has {t : Task} (carried : Carries c t l r l') {ns : List String}
    (isImport : t = .imports ns) (succeeds : r = .ok ()) : ∀ n ∈ ns, l'.has n := by
  induction carried generalizing ns with
  | imported l =>
      cases isImport
      exact nofun
  | present here rest ih =>
      cases isImport
      exact List.forall_mem_cons.2 ⟨rest.grows.has _ here, ih rfl succeeds⟩
  | completes _ found _ _ rest _ ih =>
      cases isImport
      refine List.forall_mem_cons.2 ⟨rest.grows.has _ ?_, ih rfl succeeds⟩
      exact find?_name found ▸ has_complete
  | missing | raises | fails => cases succeeds
  | taken | blocked | lacks | takes => cases isImport

/-- Nothing happens when all modules are there. -/
theorem Carries.of_has (carried : Carries c (.imports ns) l r l') (here : ∀ n ∈ ns, l.has n) :
    r = .ok () ∧ l' = l := by
  induction ns with
  | nil =>
      cases carried
      exact ⟨rfl, rfl⟩
  | cons n ns ih =>
      obtain ⟨first, rest⟩ := List.forall_mem_cons.1 here
      cases carried with
      | present _ carried => exact ih carried rest
      | missing fresh | raises fresh | fails fresh | completes fresh => exact absurd first fresh

/-! ### The depth of an import -/

/-- How many modules could still be imported. -/
def absent (c : Codebase) (l : Loaded) : Nat := c.known.countP fun n => !l.has n

theorem absent_le (grows : Grows l l') : c.absent l' ≤ c.absent l := by
  refine List.countP_mono_left fun n _ fresh => ?_
  rw [Bool.not_eq_true'] at fresh ⊢
  exact Bool.eq_false_iff.2 fun here => Bool.eq_false_iff.1 fresh (grows.has n here)

theorem absent_begin_lt (found : c.find? n = some m) (fresh : ¬ l.has n) :
    c.absent (l.begin n) < c.absent l := by
  refine countP_lt_countP (a := n) (fun x here => ?_) (mem_known found) ?_ ?_
  · rw [Bool.not_eq_true'] at here ⊢
    exact Bool.eq_false_iff.2 fun before => Bool.eq_false_iff.1 here (has_begin.2 (.inr before))
  · rw [Bool.not_eq_true']
    exact Bool.eq_false_iff.2 fresh
  · rw [Bool.not_eq_true', Bool.not_eq_false]
    exact has_begin.2 (.inl rfl)

def Does (c : Codebase) (t : Task) (l : Loaded) (ended : Except Fault Unit × Loaded) : Prop :=
  Carries c t l ended.1 ended.2

/-- Names are taken as they should be where modules are imported as they should be. -/
theorem does_takes {importOne : String → Loaded → Except Fault Unit × Loaded} {room : Nat}
    (imports : ∀ ns l, c.absent l < room → Does c (.imports ns) l (inTurn importOne ns l))
    (taken : List (String × String)) (hasRoom : c.absent l < room) :
    Does c (.takes into taken) l (inTurn (c.importAndTake importOne into) taken l) := by
  induction taken generalizing l with
  | nil => exact .taken into l
  | cons pair rest ih =>
      obtain ⟨source, name⟩ := pair
      have imported := imports (ancestry source) l hasRoom
      rw [inTurn, importAndTake]
      cases ended : inTurn importOne (ancestry source) l with
      | mk r l₁ =>
          rw [ended] at imported
          cases r with
          | error f => exact .blocked imported
          | ok _ =>
              simp only [take]
              cases found : c.member l₁ source name with
              | error f => exact .lacks imported found
              | ok bound =>
                  refine .takes imported found (ih (Nat.lt_of_le_of_lt ?_ hasRoom))
                  exact absent_le (imported.grows.trans grows_bind)

/-- With room for every module that is not there yet, modules are imported as they should be. -/
theorem does_imports (fuel : Nat) (ns : List String) (l : Loaded) (room : c.absent l < fuel) :
    Does c (.imports ns) l (inTurn (c.loadOne fuel) ns l) := by
  induction fuel generalizing ns l with
  | zero => exact absurd room (Nat.not_lt_zero _)
  | succ fuel inner =>
      induction ns generalizing l with
      | nil => exact .imported l
      | cons n ns ih =>
          rw [inTurn, loadOne]
          by_cases here : l.has n
          · rw [if_pos here]
            exact .present here (ih l room)
          · rw [if_neg here]
            cases found : c.find? n with
            | none => exact .missing here found
            | some m =>
                cases raises : m.raises with
                | some f =>
                    simp only [raises]
                    exact .raises here found raises
                | none =>
                    have less := absent_begin_lt found here
                    have body : Does c (.takes n m.imports) (l.begin n) _ :=
                      does_takes inner m.imports (by omega : c.absent (l.begin n) < fuel)
                    simp only [raises]
                    cases ended : inTurn (c.importAndTake (c.loadOne fuel) n) m.imports
                        (l.begin n) with
                    | mk r l₁ =>
                        rw [ended] at body
                        cases r with
                        | error f => exact .fails here found raises body
                        | ok _ =>
                            refine .completes here found raises body (ih _ ?_)
                            exact Nat.lt_of_le_of_lt
                              (absent_le (Grows.complete (find?_name found) here body.grows)) room

/-! ### Importing a module -/

/-- The modules up to the one that is asked for are imported. -/
theorem carries_load (c : Codebase) (some : ¬ n.isEmpty) (absolute : ¬ Text.startsWith "." n)
    (l : Loaded) : Carries c (.imports (ancestry n)) l (c.load n l).1 (c.load n l).2 := by
  rw [load, if_neg some, if_neg absolute]
  exact does_imports _ _ l (Nat.lt_succ_of_le List.countP_le_length)

/-- A name that no module can have is refused at once. -/
theorem load_carries (c : Codebase) (n : String) :
    (∃ f, ∀ l, c.load n l = (.error f, l)) ∨
      ∀ l, Carries c (.imports (ancestry n)) l (c.load n l).1 (c.load n l).2 := by
  by_cases none : n.isEmpty
  · exact .inl ⟨_, fun _ => if_pos none⟩
  · by_cases relative : Text.startsWith "." n
    · exact .inl ⟨.relativeModuleName n, fun l => by rw [load, if_neg none, if_pos relative]⟩
    · exact .inr (c.carries_load none relative)

theorem load_grows (c : Codebase) (n : String) (l : Loaded) : Grows l (c.load n l).2 := by
  rcases c.load_carries n with ⟨f, refused⟩ | carried
  · rw [refused]
    exact .refl l
  · exact (carried l).grows

/-- A module that was imported is there, and so are those above it. -/
theorem has_of_load (loads : c.load n l = (.ok (), l')) : ∀ p ∈ ancestry n, l'.has p := by
  rcases c.load_carries n with ⟨f, refused⟩ | carried
  · rw [refused] at loads
    cases loads
  · have carried := carried l
    rw [loads] at carried
    exact carried.has rfl rfl

/-- Nothing happens when the module and all above it are there. -/
theorem load_of_has (there : ∀ a ∈ ancestry n, l.has a) : (c.load n l).2 = l := by
  rcases c.load_carries n with ⟨f, refused⟩ | carried
  · rw [refused]
  · exact ((carried l).of_has there).2

/-- A module that was imported is imported again without a change. -/
theorem load_again (loads : c.load n l = (.ok (), l')) : c.load n l' = (.ok (), l') := by
  rcases c.load_carries n with ⟨f, refused⟩ | carried
  · rw [refused] at loads
    cases loads
  · obtain ⟨succeeds, same⟩ := (carried l').of_has (has_of_load loads)
    exact Prod.ext succeeds same

/-! ### Failing again -/

/-- An import that came to `l`, and in the end to `e`, is repeated from `e`, and has come to `k`:
the same bodies are running, with no more names, and beside them there is what is there in the
end. -/
structure Repeats (l e k : Loaded) : Prop where
  running : k.running = l.running
  standing : ∀ n ∈ l.running, l.has n ∧ k.has n
  ended : ∀ n ∉ l.running, k.has n ↔ e.has n
  few : ∀ n ∈ l.running, ∀ x, k.Names n x → l.Names n x
  final : ∀ n ∉ l.running, ∀ x, k.Names n x → e.Names n x

namespace Repeats

variable {bound bound' : Option ScannedClass} {x : String}

/-- What was there is there. -/
theorem has (repeats : Repeats l e k) (grows : Grows l e) (here : l.has n) : k.has n := by
  by_cases isRunning : n ∈ l.running
  · exact (repeats.standing n isRunning).2
  · exact (repeats.ended n isRunning).2 (grows.has n here)

theorem not_running (repeats : Repeats l e k) (fresh : ¬ l.has n) : n ∉ l.running :=
  fun isRunning => fresh (repeats.standing n isRunning).1

/-- What is not there in the end is not there yet. -/
theorem not_has (repeats : Repeats l e k) (fresh : ¬ l.has n) (gone : ¬ e.has n) : ¬ k.has n :=
  fun here => gone ((repeats.ended n (repeats.not_running fresh)).1 here)

/-- An import that succeeded is not repeated. -/
theorem skip (repeats : Repeats l e k) (grows : Grows l l₁) : Repeats l₁ e k where
  running := repeats.running.trans grows.running.symm
  standing n isRunning := by
    rw [grows.running] at isRunning
    exact ⟨grows.has n (repeats.standing n isRunning).1, (repeats.standing n isRunning).2⟩
  ended n isRunning := repeats.ended n (grows.running ▸ isRunning)
  few n isRunning x known := by
    rw [grows.running] at isRunning
    exact grows.names n x (repeats.standing n isRunning).1 (repeats.few n isRunning x known)
  final n isRunning := repeats.final n (grows.running ▸ isRunning)

/-- A body begins that has failed. -/
theorem begin (repeats : Repeats l (e.drop n) k) :
    Repeats (l.begin n) e (k.begin n) where
  running := by rw [running_begin, running_begin, repeats.running]
  standing p isRunning := by
    rcases List.mem_cons.1 isRunning with same | outer
    · exact ⟨has_begin.2 (.inl same), has_begin.2 (.inl same)⟩
    · exact (repeats.standing p outer).imp (has_begin.2 ∘ .inr) (has_begin.2 ∘ .inr)
  ended p isRunning := by
    obtain ⟨other, outer⟩ := not_or.1 (isRunning ∘ List.mem_cons.2)
    rw [has_begin, or_iff_right other, repeats.ended p outer, has_drop]
    exact and_iff_right other
  few p isRunning x known := by
    rw [Names, namespaceOf_begin] at known ⊢
    by_cases same : p = n
    · rw [if_pos same] at known
      cases known
    · rw [if_neg same] at known ⊢
      exact repeats.few p ((List.mem_cons.1 isRunning).resolve_left same) x known
  final p isRunning x known := by
    obtain ⟨other, outer⟩ := not_or.1 (isRunning ∘ List.mem_cons.2)
    rw [Names, namespaceOf_begin, if_neg other] at known
    have final := repeats.final p outer x known
    rwa [Names, namespaceOf_drop other] at final

/-- A name is taken both times. -/
theorem take (repeats : Repeats l e k)
    (grows : Grows (l.put into ((l.namespaceOf into).bind x bound)) e) :
    Repeats (l.put into ((l.namespaceOf into).bind x bound)) e
      (k.put into ((k.namespaceOf into).bind x bound')) where
  running := repeats.running
  standing n isRunning := (repeats.standing n isRunning).imp (has_put.2 ∘ .inr) (has_put.2 ∘ .inr)
  ended n isRunning := by
    rw [has_put]
    refine ⟨fun here => here.elim ?_ (repeats.ended n isRunning).1, fun here =>
      .inr ((repeats.ended n isRunning).2 here)⟩
    exact fun same => grows.has n (has_put.2 (.inl same))
  few n isRunning y known := by
    rw [Names, namespaceOf_put] at known ⊢
    split at known
    · next same =>
        rw [if_pos same]
        exact Namespace.has_bind.2 ((Namespace.has_bind.1 known).imp_right
          (repeats.few into (same ▸ isRunning) y))
    · next other =>
        rw [if_neg other]
        exact repeats.few n isRunning y known
  final n isRunning y known := by
    rw [Names, namespaceOf_put] at known
    split at known
    · next same =>
        subst same
        rcases Namespace.has_bind.1 known with rfl | before
        · refine grows.names n y (has_put.2 (.inl rfl)) ?_
          rw [Names, namespaceOf_put, if_pos rfl]
          exact Namespace.has_bind.2 (.inl rfl)
        · exact repeats.final n isRunning y before
    · exact repeats.final n isRunning y known

/-- In the end there are no more names than before. -/
theorem names (repeats : Repeats l l k) (known : k.Names n x) : l.Names n x := by
  by_cases isRunning : n ∈ l.running
  · exact repeats.few n isRunning x known
  · exact repeats.final n isRunning x known

end Repeats

/-- A name that a module lacks is lacking where the module has no more names. -/
theorem member_error (few : k.Names source name → l.Names source name)
    (lacks : c.member l source name = .error f) : ∃ f', c.member k source name = .error f' := by
  unfold member at lacks ⊢
  cases found : (l.namespaceOf source).lookup name with
  | some bound =>
      rw [found] at lacks
      cases lacks
  | none =>
      rw [found] at lacks
      cases again : (k.namespaceOf source).lookup name with
      | some bound =>
          have known : l.Names source name := few (by rw [Names, Namespace.Has, again]; rfl)
          rw [Names, Namespace.Has, found] at known
          cases known
      | none =>
          simp only at lacks ⊢
          by_cases other : c.hasOther source name
          · rw [if_pos other] at lacks
            cases lacks
          · exact ⟨_, if_neg other⟩

/-- **A module that fails to import fails again.** -/
theorem Carries.fails_again {t : Task} (carried : Carries c t l r e) (failed : r = .error f)
    (repeats : Repeats l e k) {r' : Except Fault Unit} (again : Carries c t k r' k') :
    ∃ f', r' = .error f' := by
  induction carried generalizing k k' r' with
  | imported l => cases failed
  | taken into l => cases failed
  | present here rest ih =>
      have there := repeats.has rest.grows here
      cases again with
      | present _ again => exact ih failed repeats again
      | missing fresh | raises fresh | fails fresh | completes fresh => exact absurd there fresh
  | missing fresh unknown =>
      have gone := repeats.not_has fresh fresh
      cases again with
      | present there => exact absurd there gone
      | missing | raises | fails => exact ⟨_, rfl⟩
      | completes _ found =>
          rw [unknown] at found
          cases found
  | raises fresh found raises =>
      have gone := repeats.not_has fresh fresh
      cases again with
      | present there => exact absurd there gone
      | missing | raises | fails => exact ⟨_, rfl⟩
      | completes _ found' sound =>
          cases found.symm.trans found'
          rw [raises] at sound
          cases sound
  | fails fresh found sound body ih =>
      have gone := repeats.not_has fresh fun here => (has_drop.1 here).1 rfl
      cases again with
      | present there => exact absurd there gone
      | missing | raises | fails => exact ⟨_, rfl⟩
      | completes _ found' _ body' =>
          cases found.symm.trans found'
          obtain ⟨f', failed'⟩ := ih failed repeats.begin body'
          cases failed'
  | @completes n _ _ _ _ _ _ fresh found sound body rest _ ih =>
      have isNamed := find?_name found
      have grows := Grows.complete isNamed fresh body.grows
      have there : k.has n := (repeats.skip grows).has rest.grows (isNamed ▸ has_complete)
      cases again with
      | present _ again => exact ih failed (repeats.skip grows) again
      | missing fresh | raises fresh | fails fresh | completes fresh => exact absurd there fresh
  | blocked source ih =>
      cases again with
      | blocked | lacks => exact ⟨_, rfl⟩
      | takes source' =>
          obtain ⟨f', failed'⟩ := ih failed repeats source'
          cases failed'
  | lacks source lacks _ =>
      have repeats := repeats.skip source.grows
      cases again with
      | blocked | lacks => exact ⟨_, rfl⟩
      | takes source' found =>
          obtain ⟨-, rfl⟩ := source'.of_has fun n member =>
            repeats.has (.refl _) (source.has rfl rfl n member)
          obtain ⟨f', lacks'⟩ := member_error repeats.names lacks
          rw [lacks'] at found
          cases found
  | takes source found rest _ ih =>
      have repeats := repeats.skip source.grows
      have grows := grows_bind.trans rest.grows
      cases again with
      | blocked | lacks => exact ⟨_, rfl⟩
      | takes source' found' rest' =>
          obtain ⟨-, rfl⟩ := source'.of_has fun n member =>
            repeats.has grows (source.has rfl rfl n member)
          exact ih failed (repeats.take rest.grows) rest'

/-- A module that failed to import while nothing was running fails again. -/
theorem load_fails_again (settled : l.running = []) (fails : c.load n l = (.error f, e)) :
    ∃ f' e', c.load n e = (.error f', e') := by
  rcases c.load_carries n with ⟨f', refused⟩ | carried
  · exact ⟨_, _, refused e⟩
  · have first := carried l
    rw [fails] at first
    have isSettled : ∀ n, n ∉ l.running := fun n => settled ▸ List.not_mem_nil
    have repeats : Repeats l e e :=
      ⟨first.grows.running, fun n h => absurd h (isSettled n), fun _ _ => Iff.rfl,
        fun n h => absurd h (isSettled n), fun _ _ _ => id⟩
    obtain ⟨f', failed⟩ := first.fails_again rfl repeats (carried e)
    exact ⟨f', _, Prod.ext failed rfl⟩

end Codebase

end Marking
