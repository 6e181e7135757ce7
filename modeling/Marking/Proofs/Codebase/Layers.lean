/-
# Marking.Proofs.Codebase.Layers -- modules whose names do not depend on the order of imports

What a name of a module stands for can depend on what was imported before.  A module that is
imported takes the place of what the module above it had by its name, and in a circle of imports
the module that comes first finds the others without their names.

Neither happens among modules in layers (`Layered`), where a module takes names from modules of
lower rank only and has no name of a module directly below it.  Such modules import whatever was
imported before (`Layered.alwaysImports`), and then their names stand for what `meaning` says,
which the text of the modules settles (`Layered.defines_iff`).
-/
import Marking.Proofs.Codebase.Keeping

set_option autoImplicit false

namespace Marking

open Loaded

/-! ## Annotations that are alike only when they are the same -/

section Annotations

variable {known all : List (List Marker)} {f : Field} {fs : List Field} {cs : List ClassSpec}

/-- Equal annotations are the same, so that it does not matter which one was made first. -/
def Distinguished (all : List (List Marker)) : Prop :=
  ∀ as ∈ all, ∀ bs ∈ all, sameMarkers as bs → as = bs

theorem Field.share_distinguished (apart : Distinguished all) (made : ∀ as ∈ known, as ∈ all)
    (here : f.markers ∈ all) : (f.share known).1 = f ∧ ∀ as ∈ (f.share known).2, as ∈ all := by
  rw [Field.share]
  split
  · exact ⟨rfl, made⟩
  · cases found : known.find? (sameMarkers f.markers) with
    | some as =>
        have member := made as (List.mem_of_find?_eq_some found)
        have same := apart _ here as member (List.find?_some found)
        exact ⟨by rw [← same], made⟩
    | none => exact ⟨rfl, List.forall_mem_append.2 ⟨made, List.forall_mem_singleton.2 here⟩⟩

theorem Field.shareAll_distinguished (apart : Distinguished all) (made : ∀ as ∈ known, as ∈ all)
    (here : ∀ f ∈ fs, f.markers ∈ all) :
    (Field.shareAll known fs).1 = fs ∧ ∀ as ∈ (Field.shareAll known fs).2, as ∈ all := by
  induction fs generalizing known with
  | nil => exact ⟨rfl, made⟩
  | cons f fs ih =>
      obtain ⟨first, here⟩ := List.forall_mem_cons.1 here
      obtain ⟨same, made⟩ := Field.share_distinguished apart made first
      obtain ⟨rest, made⟩ := ih made here
      exact ⟨congrArg₂ List.cons same rest, made⟩

theorem ClassSpec.shareAll_distinguished (apart : Distinguished all) (made : ∀ as ∈ known, as ∈ all)
    (here : ∀ cls ∈ cs, ∀ f ∈ cls.fields, f.markers ∈ all) :
    (ClassSpec.shareAll known cs).1 = cs ∧ ∀ as ∈ (ClassSpec.shareAll known cs).2, as ∈ all := by
  induction cs generalizing known with
  | nil => exact ⟨rfl, made⟩
  | cons cls cs ih =>
      obtain ⟨first, here⟩ := List.forall_mem_cons.1 here
      obtain ⟨same, made⟩ := Field.shareAll_distinguished apart made first
      obtain ⟨rest, made⟩ := ih made here
      refine ⟨congrArg₂ List.cons ?_ rest, made⟩
      rw [same]

end Annotations

namespace Codebase

/-! ## Layers -/

/-- The markers of the annotations that the modules can make. -/
def annotations (c : Codebase) : List (List Marker) :=
  (((c.modules ++ c.others).flatMap ModuleSpec.classes).flatMap ClassSpec.fields).map Field.markers

/-- The names taken from other modules, when the names of these are known. -/
def takeAll (meaning : String → Namespace) (ns : Namespace) (taken : List (String × String)) :
    Namespace :=
  taken.foldl (fun ns (source, name) => ns.bind name ((meaning source).lookup name).join) ns

/-- The names of a module at the end of its body. -/
def bodyOf (meaning : String → Namespace) (m : ModuleSpec) : Namespace :=
  ((takeAll meaning [] m.imports).defineAll m.classes).aliasAll m.aliases

/-- A name that can be taken into a module: the source is of lower rank, like the modules above it
unless these are above the module as well, and has the name. -/
structure Takes (c : Codebase) (rank : String → Nat) (meaning : String → Namespace) (into source
    name : String) : Prop where
  lower : rank source < rank into
  above : ∀ a ∈ ancestry source, (c.find? a).isSome ∧ (rank a < rank into ∨ a ∈ ancestry into)
  provided : ((meaning source).lookup name).isSome ∨ c.hasOther source name

structure LayeredModule (c : Codebase) (rank : String → Nat) (meaning : String → Namespace)
    (n : String) (m : ModuleSpec) : Prop where
  sound : m.raises = none
  takes : ∀ taken ∈ m.imports, Takes c rank meaning n taken.1 taken.2
  means : meaning n = bodyOf meaning m
  /-- A name of a module below is none of the module, nor is it used there. -/
  apart : ∀ x, c.Below n x → (meaning n).lookup x = none ∧
    (∀ cls ∈ m.classes, x ∉ cls.bases) ∧ ∀ pair ∈ m.aliases, pair.2 ≠ x

/-- Modules in layers, and what their names stand for. -/
structure Layered (c : Codebase) (rank : String → Nat) (meaning : String → Namespace) : Prop where
  named : ∀ n ∈ c.names, ¬ n.isEmpty ∧ ¬ Text.startsWith "." n
  modules : ∀ n m, c.find? n = some m → LayeredModule c rank meaning n m
  distinguished : Distinguished c.annotations

structure Faithful (c : Codebase) (meaning : String → Namespace) (l : Loaded) : Prop where
  ended : ∀ n, l.has n → n ∉ l.running → Agrees c n (meaning n) (l.namespaceOf n)
  made : ∀ as ∈ l.annotations, as ∈ c.annotations

variable {c : Codebase} {rank : String → Nat} {meaning : String → Namespace} {l l' l₁ : Loaded}
  {n p into origin name : String} {m : ModuleSpec} {names : List String} {t : Task}
  {taken : List (String × String)} {r : Except Fault Unit} {cls : ScannedClass}

theorem isSome_find? (known : n ∈ c.names) : (c.find? n).isSome := by
  unfold find?
  split
  · rfl
  · rw [if_pos (List.contains_iff_mem.2 known)]
    rfl

theorem markers_mem_annotations (found : c.find? n = some m) :
    ∀ cls ∈ m.classes, ∀ f ∈ cls.fields, f.markers ∈ c.annotations := by
  intro cls isClass f isField
  suffices listed : m ∈ c.modules ++ c.others by
    exact List.mem_map_of_mem (List.mem_flatMap.2
      ⟨cls, List.mem_flatMap.2 ⟨m, listed, isClass⟩, isField⟩)
  unfold find? at found
  split at found
  · next listed =>
      cases found
      exact List.mem_append_left _ (List.mem_reverse.1 (List.mem_of_find?_eq_some listed))
  · split at found
    · cases found
      cases isClass
    · exact List.mem_append_right _ (List.mem_of_find?_eq_some found)

/-! ## Imports that are ready -/

structure Taking (c : Codebase) (rank : String → Nat) (meaning : String → Namespace) (into : String)
    (taken : List (String × String)) (l : Loaded) : Prop where
  isRunning : into ∈ l.running
  lowest : ∀ q ∈ l.running, q = into ∨ rank into < rank q
  here : ∀ a ∈ ancestry into, l.has a
  takes : ∀ pair ∈ taken, Takes c rank meaning into pair.1 pair.2

/-- What is to be imported is of lower rank than what is running, and comes after what is above it;
what is to be taken is there to take. -/
def Ready (c : Codebase) (rank : String → Nat) (meaning : String → Namespace) :
    Task → Loaded → Prop
  | .imports names, l => ∀ pre a post, names = pre ++ a :: post →
      l.has a ∨ (∀ q ∈ l.running, rank a < rank q) ∧ ∀ b ∈ ancestry a, b = a ∨ b ∈ pre ∨ l.has b
  | .takes into taken, l => Taking c rank meaning into taken l

theorem Ready.tail (ready : Ready c rank meaning (.imports (n :: names)) l) (grows : Grows l l')
    (here : l'.has n) : Ready c rank meaning (.imports names) l' := by
  rintro pre a post rfl
  rcases ready (n :: pre) a post rfl with there | ⟨lower, above⟩
  · exact .inl (grows.has a there)
  · refine .inr ⟨grows.running ▸ lower, fun b isAbove => ?_⟩
    rcases above b isAbove with same | before | there
    · exact .inl same
    · rcases List.mem_cons.1 before with rfl | earlier
      · exact .inr (.inr here)
      · exact .inr (.inl earlier)
    · exact .inr (.inr (grows.has b there))

/-- A module is imported after those above it, when nothing is running. -/
theorem Ready.load (settled : l.running = []) : Ready c rank meaning (.imports (ancestry n)) l := by
  intro pre a post split
  refine .inr ⟨settled ▸ nofun, fun b isAbove => ?_⟩
  exact (ancestry_ordered split isAbove).imp_right .inl

/-- The module that a name is taken from is imported after those above it. -/
theorem Taking.source (taking : Taking c rank meaning into ((origin, name) :: taken) l) :
    Ready c rank meaning (.imports (ancestry origin)) l := by
  have takes := taking.takes (origin, name) List.mem_cons_self
  intro pre a post split
  have isAbove : a ∈ ancestry origin := split ▸ List.mem_append_right _ List.mem_cons_self
  rcases (takes.above a isAbove).2 with lower | shared
  · refine .inr ⟨fun q isRunning => ?_, fun b isAbove =>
      (ancestry_ordered split isAbove).imp_right .inl⟩
    rcases taking.lowest q isRunning with rfl | higher
    · exact lower
    · exact Nat.lt_trans lower higher
  -- What is above both modules was there before the body began to run.
  · exact .inl (taking.here a shared)

/-- The module that a name is taken from is not running any more. -/
theorem Taking.source_ended (taking : Taking c rank meaning into ((origin, name) :: taken) l) :
    origin ∉ l.running := by
  intro isRunning
  have lower := (taking.takes (origin, name) List.mem_cons_self).lower
  rcases taking.lowest origin isRunning with rfl | higher
  · exact Nat.lt_irrefl _ lower
  · exact Nat.lt_asymm lower higher

theorem Taking.rest (taking : Taking c rank meaning into ((origin, name) :: taken) l)
    (grows : Grows l l') : Taking c rank meaning into taken l' where
  isRunning := grows.running ▸ taking.isRunning
  lowest := grows.running ▸ taking.lowest
  here a isAbove := grows.has a (taking.here a isAbove)
  takes := (List.forall_mem_cons.1 taking.takes).2

/-- The body of a module takes its names when the module was ready to be imported. -/
theorem Ready.body (layered : LayeredModule c rank meaning n m)
    (ready : Ready c rank meaning (.imports (n :: names)) l) (fresh : ¬ l.has n) :
    Taking c rank meaning n m.imports (l.begin n) := by
  obtain ⟨lower, above⟩ := (ready [] n names rfl).resolve_left fresh
  refine ⟨List.mem_cons_self, fun q isRunning => ?_, fun a isAbove => ?_, layered.takes⟩
  · exact (List.mem_cons.1 isRunning).imp_right (lower q)
  · rcases above a isAbove with same | none | there
    · exact has_begin.2 (.inl same)
    · cases none
    · exact has_begin.2 (.inr there)

/-! ## Faithful imports -/

theorem Faithful.begin (faithful : Faithful c meaning l) : Faithful c meaning (l.begin n) where
  ended p here isEnded := by
    obtain ⟨other, isEnded⟩ := not_or.1 (isEnded ∘ List.mem_cons.2)
    rw [namespaceOf_begin, if_neg other]
    exact faithful.ended p ((has_begin.1 here).resolve_left other) isEnded
  made := faithful.made

/-- A name more for a module whose body is running. -/
theorem Faithful.put {ns : Namespace} (faithful : Faithful c meaning l) (isRunning : into ∈ l.running) :
    Faithful c meaning (l.put into ns) where
  ended p here isEnded := by
    have other : p ≠ into := fun same => isEnded (same ▸ isRunning)
    rw [namespaceOf_put, if_neg other]
    exact faithful.ended p ((has_put.1 here).resolve_left other) isEnded
  made := faithful.made

/-- A module whose body has taken its names is completed as the meaning says. -/
theorem Faithful.complete (distinguished : Distinguished c.annotations)
    (layered : LayeredModule c rank meaning n m) (found : c.find? n = some m)
    (faithful : Faithful c meaning l) (agrees : Agrees c n (takeAll meaning [] m.imports)
      (l.namespaceOf n)) : Faithful c meaning ((l.complete m).bindBelow n) := by
  have isNamed := find?_name found
  obtain ⟨classes, made⟩ := ClassSpec.shareAll_distinguished distinguished faithful.made
    (markers_mem_annotations found)
  have ended : Agrees c n (meaning n) ((l.complete m).namespaceOf n) := by
    rw [namespaceOf_complete, if_pos isNamed.symm, classes, layered.means]
    refine (agrees.defineAll ?_).aliasAll ?_
    · exact fun cls isClass b isBase below => (layered.apart b below).2.1 cls isClass isBase
    · exact fun pair isAlias below => (layered.apart pair.2 below).2.2 pair isAlias rfl
  have completed : ∀ p, (l.complete m).has p → p ∉ (l.complete m).running →
      Agrees c p (meaning p) ((l.complete m).namespaceOf p) := by
    intro p here isEnded
    by_cases same : p = n
    · exact same ▸ ended
    · rw [namespaceOf_complete, isNamed, if_neg same]
      refine faithful.ended p ((has_put.1 here).resolve_left (isNamed ▸ same)) fun isRunning => ?_
      exact isEnded ((List.mem_erase_of_ne (isNamed ▸ same)).2 isRunning)
  constructor
  · intro p here isEnded
    rw [has_bindBelow] at here
    rw [grows_bindBelow.running] at isEnded
    exact (completed p here isEnded).trans (agrees_bindBelow found)
  · rw [annotations_bindBelow]
    exact made

/-- A name that can be taken stands for what the meaning says. -/
theorem Faithful.member (layered : Layered c rank meaning) (faithful : Faithful c meaning l)
    (takes : Takes c rank meaning into origin name) (here : l.has origin)
    (isEnded : origin ∉ l.running) :
    c.member l origin name = .ok ((meaning origin).lookup name).join := by
  rw [Codebase.member]
  -- A module below that has taken the name is no class, and the origin had none by this name.
  rcases faithful.ended origin here isEnded name with same | ⟨below, isModule⟩
  · rw [same]
    cases found : (meaning origin).lookup name with
    | some bound => rfl
    | none => exact if_pos (takes.provided.resolve_left (by rw [found]; exact nofun))
  · obtain ⟨m, found⟩ := Option.isSome_iff_exists.1 (takes.above origin (mem_ancestry origin)).1
    rw [isModule, ((layered.modules origin m found).apart name below).1]
    rfl

/-- How a task ends among modules in layers. -/
def Succeeds (c : Codebase) (meaning : String → Namespace) :
    Task → Loaded → Except Fault Unit → Loaded → Prop
  | .imports names, _, r, _ => (∀ n ∈ names, (c.find? n).isSome) → r = .ok ()
  | .takes into taken, l, r, l' => r = .ok () ∧ ∀ ns, Agrees c into ns (l.namespaceOf into) →
      Agrees c into (takeAll meaning ns taken) (l'.namespaceOf into)

/-- **An import among modules in layers** succeeds when the modules exist, and what is loaded stays
as the meaning says. -/
theorem Carries.faithful (layered : Layered c rank meaning) (carried : Carries c t l r l')
    (faithful : Faithful c meaning l) (ready : Ready c rank meaning t l) :
    Faithful c meaning l' ∧ Succeeds c meaning t l r l' := by
  -- Along the import.  `ready` keeps a module from being asked for a name while its body runs, and
  -- what is running is left alone by the imports in between (`Carries.keeps`).
  induction carried with
  | imported l => exact ⟨faithful, fun _ => rfl⟩
  | present here _ ih =>
      obtain ⟨isFaithful, succeeds⟩ := ih faithful (ready.tail (.refl _) here)
      exact ⟨isFaithful, fun known => succeeds (List.forall_mem_cons.1 known).2⟩
  | missing _ unknown =>
      refine ⟨faithful, fun known => ?_⟩
      have found := (List.forall_mem_cons.1 known).1
      rw [unknown] at found
      cases found
  | raises _ found raises =>
      have sound := (layered.modules _ _ found).sound
      rw [raises] at sound
      cases sound
  | fails fresh found _ _ ih =>
      obtain ⟨-, fails, -⟩ := ih faithful.begin (ready.body (layered.modules _ _ found) fresh)
      cases fails
  | @completes n names l l₁ l' m _ fresh found _ body _ ih rest =>
      have isLayered := layered.modules _ _ found
      have isNamed := find?_name found
      obtain ⟨isFaithful, -, taken⟩ := ih faithful.begin (ready.body isLayered fresh)
      have agrees := taken [] (by rw [namespaceOf_begin, if_pos rfl]; exact .refl c n [])
      have completed := isFaithful.complete layered.distinguished isLayered found agrees
      have ready := ready.tail (Grows.complete isNamed fresh body.grows) (isNamed ▸ has_complete)
      obtain ⟨isFaithful, succeeds⟩ := rest completed ready
      exact ⟨isFaithful, fun known => succeeds (List.forall_mem_cons.1 known).2⟩
  | taken into l => exact ⟨faithful, rfl, fun ns agrees => agrees⟩
  | @blocked into origin name _ _ _ _ _ ih =>
      have taking : Taking c rank meaning into _ _ := ready
      have takes := taking.takes (origin, name) List.mem_cons_self
      obtain ⟨-, succeeds⟩ := ih faithful taking.source
      cases succeeds fun a isAbove => (takes.above a isAbove).1
  | @lacks into origin name _ _ _ _ source lacks ih =>
      have taking : Taking c rank meaning into _ _ := ready
      have takes := taking.takes (origin, name) List.mem_cons_self
      obtain ⟨isFaithful, -⟩ := ih faithful taking.source
      have found := isFaithful.member layered takes (source.has rfl rfl origin (mem_ancestry origin))
        (source.grows.running ▸ taking.source_ended)
      rw [lacks] at found
      cases found
  | @takes into origin name _ _ l₁ _ _ _ source found rest ih last =>
      have taking : Taking c rank meaning into _ _ := ready
      have takes := taking.takes (origin, name) List.mem_cons_self
      obtain ⟨isFaithful, -⟩ := ih faithful taking.source
      have isMember := isFaithful.member layered takes
        (source.has rfl rfl origin (mem_ancestry origin))
        (source.grows.running ▸ taking.source_ended)
      rw [found] at isMember
      cases isMember
      have isRunning : into ∈ l₁.running := source.grows.running ▸ taking.isRunning
      obtain ⟨isFaithful, succeeds, taken⟩ := last (isFaithful.put isRunning)
        (taking.rest (source.grows.trans grows_bind))
      refine ⟨isFaithful, succeeds, fun ns agrees => ?_⟩
      have kept := source.keeps (taking.here into (mem_ancestry into)) nofun
      refine taken _ ?_
      rw [namespaceOf_put, if_pos rfl]
      exact (agrees.trans kept).bind

/-! ## What is loaded of a codebase in layers -/

theorem Layered.faithful (layered : Layered c rank meaning) (imported : c.Imported l) :
    Faithful c meaning l := by
  induction imported with
  | nothing => exact ⟨nofun, nofun⟩
  | load name imported ih =>
      rcases c.load_carries name with ⟨f, refused⟩ | carried
      · rw [refused]
        exact ih
      · exact ((carried _).faithful layered ih (Ready.load imported.settled)).1

/-- Modules in layers import, whatever was imported before. -/
theorem Layered.alwaysImports (layered : Layered c rank meaning) : c.AlwaysImports := by
  intro l imported n known
  obtain ⟨some, absolute⟩ := layered.named n known
  have carried := c.carries_load some absolute l
  refine (carried.faithful layered (layered.faithful imported)
    (Ready.load imported.settled)).2 fun a isAbove => ?_
  exact isSome_find? (names_closed known isAbove)

theorem has_of_defines (defines : Defines l n cls) : l.has n := by
  obtain ⟨⟨x, member⟩, -⟩ := defines
  rw [has_eq]
  rw [namespaceOf] at member
  cases found : l.modules.lookup n with
  | none =>
      rw [found] at member
      cases member
  | some ns => rfl

/-- **The classes of a module in layers** are those that the meaning says. -/
theorem Layered.defines_iff (layered : Layered c rank meaning) (imported : c.Imported l)
    (known : n ∈ c.names) (here : l.has n) : Defines l n cls ↔
      (∃ x, (meaning n).lookup x = some (some cls)) ∧ cls.module = n := by
  obtain ⟨m, found⟩ := Option.isSome_iff_exists.1 (isSome_find? known)
  have agrees := (layered.faithful imported).ended n here (imported.settled ▸ List.not_mem_nil)
  refine and_congr_left fun _ => exists_congr fun x => ?_
  rw [(imported.once n).mem_iff]
  rcases agrees x with same | ⟨below, isModule⟩
  · rw [same]
  · rw [isModule, ((layered.modules n m found).apart x below).1]
    simp

theorem Layered.orderFree (layered : Layered c rank meaning) : c.OrderFree := by
  intro l l' imported imported' n known here here' cls
  rw [layered.defines_iff imported known here, layered.defines_iff imported' known here']

end Codebase

end Marking
