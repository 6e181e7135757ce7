/-
# Marking.Proofs.Codebase.Keeping -- what an import keeps of the names of modules

A module that is imported becomes a name of the module above it, in place of what that had by this
name.  That is all that an import does to the names of what was loaded before (`Carries.keeps`),
and no module has a name twice (`Imported.once`).
-/
import Marking.Proofs.Codebase.Covering

set_option autoImplicit false

namespace Marking

/-! ## Namespaces without repetitions -/

namespace Namespace

variable {ns : Namespace} {name x : String} {bound : Option ScannedClass}

def Once (ns : Namespace) : Prop := (ns.map Prod.fst).Nodup

instance (ns : Namespace) : Decidable ns.Once :=
  inferInstanceAs (Decidable (ns.map Prod.fst).Nodup)

theorem lookup_bind : (ns.bind name bound).lookup x = if x = name then some bound else ns.lookup x :=
  lookup_set

theorem Once.bind (once : ns.Once) : (ns.bind name bound).Once := by
  rw [Namespace.bind]
  split
  · have names : (ns.map fun b => if b.1 == name then (name, bound) else b).map Prod.fst =
        ns.map Prod.fst := by
      rw [List.map_map]
      refine List.map_congr_left fun b _ => ?_
      rw [Function.comp_apply]
      split
      · next same => exact (eq_of_beq same).symm
      · rfl
    rw [Once, names]
    exact once
  · next unknown =>
      rw [Once, List.map_append]
      refine List.nodup_append.2 ⟨once, List.nodup_singleton name, ?_⟩
      rintro a isName b isNew rfl
      obtain ⟨entry, member, rfl⟩ := List.mem_map.1 isName
      exact unknown (List.any_eq_true.2 ⟨entry, member, beq_iff_eq.2 (List.mem_singleton.1 isNew)⟩)

theorem Once.defineAll (once : ns.Once) (cs : List ClassSpec) : (ns.defineAll cs).Once := by
  induction cs generalizing ns with
  | nil => exact once
  | cons c cs ih => exact ih once.bind

theorem Once.aliasAll (once : ns.Once) (names : List (String × String)) :
    (ns.aliasAll names).Once := by
  induction names generalizing ns with
  | nil => exact once
  | cons pair names ih =>
      obtain ⟨new, existing⟩ := pair
      rw [Namespace.aliasAll, List.foldl_cons]
      refine ih ?_
      cases found : ns.lookup existing with
      | none =>
          simp only [found]
          exact once
      | some bound =>
          simp only [found]
          exact once.bind

theorem Once.mem_iff (once : ns.Once) : (x, bound) ∈ ns ↔ ns.lookup x = some bound := by
  induction ns with
  | nil => simp
  | cons entry ns ih =>
      obtain ⟨y, b⟩ := entry
      obtain ⟨new, once⟩ := List.nodup_cons.1 once
      rw [List.mem_cons, List.lookup_cons, Prod.mk.injEq]
      by_cases same : x = y
      · subst same
        have gone : (x, bound) ∉ ns := fun member => new (List.mem_map.2 ⟨_, member, rfl⟩)
        simp [gone, eq_comm]
      · rw [beq_eq_false_iff_ne.2 same, ← ih once]
        simp [same]

end Namespace

namespace Codebase

open Loaded Namespace

variable {c : Codebase} {l l' l₁ : Loaded} {n p x : String} {r : Except Fault Unit} {t : Task}
  {ns ns' : Namespace} {bound : Option ScannedClass} {m : ModuleSpec}

theorem namespaceOf_drop_self : (l.drop n).namespaceOf n = [] := by
  rw [namespaceOf, drop, lookup_forget, if_pos rfl]
  rfl

theorem namespaceOf_complete : (l.complete m).namespaceOf n =
    if n = m.name then
      ((l.namespaceOf n).defineAll (ClassSpec.shareAll l.annotations m.classes).1).aliasAll m.aliases
    else l.namespaceOf n := by
  show (l.put m.name _).namespaceOf n = _
  rw [namespaceOf_put]
  split
  · next same => rw [same]
  · rfl

@[simp] theorem has_bindBelow : (l.bindBelow n).has p ↔ l.has p := by
  rw [bindBelow]
  split
  · exact Iff.rfl
  · next there =>
      rw [has_put]
      refine ⟨fun here => here.elim (fun same => ?_) id, .inr⟩
      rw [Bool.not_eq_true', Bool.not_eq_false] at there
      exact same ▸ there

theorem annotations_bindBelow : (l.bindBelow n).annotations = l.annotations := by
  rw [bindBelow]
  split <;> rfl

/-- No module has a name twice. -/
theorem Carries.once (carried : Carries c t l r l') (once : ∀ n, (l.namespaceOf n).Once) :
    ∀ n, (l'.namespaceOf n).Once := by
  have put {l : Loaded} {p : String} {ns : Namespace} (once : ∀ n, (l.namespaceOf n).Once)
      (new : ns.Once) : ∀ n, ((l.put p ns).namespaceOf n).Once := by
    intro n
    rw [namespaceOf_put]
    split
    · exact new
    · exact once n
  induction carried with
  | imported l | missing | raises | taken => exact once
  | present _ _ ih | blocked _ ih | lacks _ _ ih => exact ih once
  | @fails n _ _ _ _ _ _ _ _ _ ih =>
      intro p
      by_cases same : p = n
      · rw [same, namespaceOf_drop_self]
        exact List.nodup_nil
      · rw [namespaceOf_drop same]
        exact ih (put once List.nodup_nil) p
  | @completes n _ _ l₁ _ m _ _ _ _ _ _ body rest =>
      have ran := body (put once List.nodup_nil)
      have completed : ∀ p, ((l₁.complete m).namespaceOf p).Once := by
        intro p
        rw [namespaceOf_complete]
        split
        · exact ((ran p).defineAll _).aliasAll _
        · exact ran p
      refine rest ?_
      rw [bindBelow]
      split
      · exact completed
      · exact put completed (completed _).bind
  | takes _ _ _ source rest => exact rest (put (source once) (source once _).bind)

theorem Imported.once (imported : c.Imported l) : ∀ n, (l.namespaceOf n).Once := by
  induction imported with
  | nothing => exact fun _ => List.nodup_nil
  | load name _ ih =>
      rcases c.load_carries name with ⟨f, refused⟩ | carried
      · rw [refused]
        exact ih
      · exact (carried _).once ih

/-! ## Names of modules below -/

/-- A module directly below the module has the name there. -/
def Below (c : Codebase) (p x : String) : Prop :=
  ∃ n, (c.find? n).isSome ∧ Text.parentName n = p ∧ Text.lastComponent n = x

/-- Names stand for the same, but for those that have come to be names of modules below. -/
def Agrees (c : Codebase) (p : String) (ns ns' : Namespace) : Prop :=
  ∀ x, ns'.lookup x = ns.lookup x ∨ c.Below p x ∧ ns'.lookup x = some none

section Agrees

variable {ns'' : Namespace}

theorem Agrees.refl (c : Codebase) (p : String) (ns : Namespace) : Agrees c p ns ns :=
  fun _ => .inl rfl

theorem Agrees.trans (first : Agrees c p ns ns') (second : Agrees c p ns' ns'') :
    Agrees c p ns ns'' := by
  intro x
  rcases second x with same | below
  · rw [same]
    exact first x
  · exact .inr below

theorem Agrees.bind (agrees : Agrees c p ns ns') : Agrees c p (ns.bind x bound) (ns'.bind x bound) := by
  intro y
  rw [lookup_bind, lookup_bind]
  split
  · exact .inl rfl
  · exact agrees y

theorem Agrees.defineAll (agrees : Agrees c p ns ns') {cs : List ClassSpec}
    (apart : ∀ cls ∈ cs, ∀ b ∈ cls.bases, ¬ c.Below p b) :
    Agrees c p (ns.defineAll cs) (ns'.defineAll cs) := by
  induction cs generalizing ns ns' with
  | nil => exact agrees
  | cons cls cs ih =>
      obtain ⟨here, apart⟩ := List.forall_mem_cons.1 apart
      have same : ns'.define cls = ns.define cls := by
        have bases : ∀ b ∈ cls.bases, ns'.lookup b = ns.lookup b := fun b isBase =>
          (agrees b).resolve_right fun below => here b isBase below.1
        rw [Namespace.define, Namespace.define]
        congr 2
        rw [Bool.eq_iff_iff, List.any_eq_true, List.any_eq_true]
        exact exists_congr fun b => and_congr_right fun isBase => by rw [bases b isBase]
      rw [Namespace.defineAll, List.foldl_cons, Namespace.defineAll, List.foldl_cons, same]
      exact ih agrees.bind apart

theorem Agrees.aliasAll (agrees : Agrees c p ns ns') {names : List (String × String)}
    (apart : ∀ pair ∈ names, ¬ c.Below p pair.2) :
    Agrees c p (ns.aliasAll names) (ns'.aliasAll names) := by
  induction names generalizing ns ns' with
  | nil => exact agrees
  | cons pair names ih =>
      obtain ⟨new, existing⟩ := pair
      obtain ⟨here, apart⟩ := List.forall_mem_cons.1 apart
      rw [Namespace.aliasAll, List.foldl_cons, Namespace.aliasAll, List.foldl_cons]
      refine ih ?_ apart
      simp only [(agrees existing).resolve_right fun below => here below.1]
      cases ns.lookup existing with
      | none => exact agrees
      | some bound => exact agrees.bind

theorem agrees_bindBelow (found : c.find? n = some m) :
    Agrees c p (l.namespaceOf p) ((l.bindBelow n).namespaceOf p) := by
  rw [bindBelow]
  split
  · exact .refl c p _
  · intro x
    rw [namespaceOf_put]
    split
    · next same =>
        rw [lookup_bind, ← same]
        split
        · next isLast => exact .inr ⟨⟨n, by rw [found]; rfl, same.symm, isLast.symm⟩, rfl⟩
        · exact .inl rfl
    · exact .inl rfl

end Agrees

/-- **What an import leaves as it was**: the names of what is loaded, but for those that come to be
names of modules below.  Only the module that names are taken into gets others. -/
theorem Carries.keeps (carried : Carries c t l r l') (here : l.has p)
    (other : ∀ into names, t = .takes into names → p ≠ into) :
    Agrees c p (l.namespaceOf p) (l'.namespaceOf p) := by
  induction carried with
  | imported l | missing | raises | taken => exact .refl c p _
  | present _ _ ih => exact ih here nofun
  | blocked _ ih | lacks _ _ ih => exact ih here nofun
  | @fails n _ l l' _ _ fresh _ _ _ ih =>
      have apart : p ≠ n := fun same => fresh (same ▸ here)
      have kept := ih (has_begin.2 (.inr here)) fun into names same => by
        cases same
        exact apart
      rw [namespaceOf_begin, if_neg apart] at kept
      rw [namespaceOf_drop apart]
      exact kept
  | @completes n _ l l₁ _ m _ fresh found _ body _ ih rest =>
      have apart : p ≠ n := fun same => fresh (same ▸ here)
      have isNamed := find?_name found
      have kept := ih (has_begin.2 (.inr here)) fun into names same => by
        cases same
        exact apart
      rw [namespaceOf_begin, if_neg apart] at kept
      have completed : (l₁.complete m).namespaceOf p = l₁.namespaceOf p := by
        rw [namespaceOf_complete, isNamed, if_neg apart]
      rw [← completed] at kept
      refine (kept.trans (agrees_bindBelow found)).trans (rest ?_ nofun)
      exact (Grows.complete isNamed fresh body.grows).has p here
  | @takes into _ _ _ _ l₁ _ _ _ source _ _ ih rest =>
      have apart : p ≠ into := other into _ rfl
      have there := source.grows.has p here
      refine (ih here nofun).trans ?_
      have kept := rest (has_put.2 (.inr there)) fun into names same => by
        cases same
        exact apart
      rwa [namespaceOf_put, if_neg apart] at kept

end Codebase

end Marking
