/-
# Marking.Proofs.TypeRegistry.Injectors -- one injector for every type

Texts, classes and keys stand for types (`Value.StandsForType`), and two of them stand for the same
type when they have the same key.  A registry in use learns types, hands out injectors, and is told
through an injector that something was made for its type (`Operation`).  Whoever is handed an
injector keeps the handle and tells the registry through it, whatever was asked for since.

What the registry holds after some operations is settled by the objects that were used, those that
were asked for, and the injectors that were marked (`Kept`): one step keeps this (`Kept.perform`),
so a run does.  Hence every type has one injector of its own, however it is written
(`one_injector_each`).
-/
import Mathlib.Data.List.Forall2
import Mathlib.Data.List.Nodup
import Marking.Proofs.Key.Distinct
import Marking.TypeRegistry

set_option autoImplicit false

namespace Marking

/-! ## Objects with a key -/

/-- A text that is not empty, a class or a key. -/
inductive Value.StandsForType : Value → Prop
  | text {s : String} : s ≠ "" → StandsForType (.str s)
  | key (k : UnitKey) : StandsForType (.key k)
  | cls {v : Value} : v.isClass → StandsForType v

/-- What has a name of its own has a qualified name. -/
theorem Value.qualifiedName_ok {v : Value} {q : String} (named : v.ownName? = some (.str q)) :
    v.qualifiedName = .ok (qualified v.module? q) := by
  unfold qualifiedName
  rw [named]
  rfl

theorem Value.qualifiedName_of_isClass {v : Value} (isClass : v.isClass) :
    ∃ n, v.qualifiedName = .ok n := by
  cases v with
  | classRef m q ms => exact ⟨_, qualifiedName_ok (v := .classRef m q ms) rfl⟩
  | builtin b => exact ⟨_, qualifiedName_ok (v := .builtin b) rfl⟩
  | markerType t => exact ⟨_, qualifiedName_ok (v := .markerType t) rfl⟩
  | _ => cases isClass

/-- A class has the key of its qualified name. -/
theorem UnitKey.ofValue_of_isClass {v : Value} (isClass : v.isClass) {n : String}
    (named : v.qualifiedName = .ok n) : UnitKey.ofValue v = .ok ⟨n, .type⟩ := by
  unfold ofValue
  split
  · cases isClass
  · cases isClass
  · rw [if_pos isClass, named]
    rfl

theorem UnitKey.ofValue_text {s : String} (some : s ≠ "") :
    UnitKey.ofValue (.str s) = .ok ⟨s, .type⟩ := by
  rw [ofValue, if_neg]
  simpa using some

theorem Value.StandsForType.keyed {v : Value} (stands : v.StandsForType) :
    ∃ k, UnitKey.ofValue v = .ok k := by
  cases stands with
  | text some => exact ⟨_, UnitKey.ofValue_text some⟩
  | key k => exact ⟨k, rfl⟩
  | cls isClass =>
      obtain ⟨n, named⟩ := qualifiedName_of_isClass isClass
      exact ⟨_, UnitKey.ofValue_of_isClass isClass named⟩

namespace TypeRegistry

/-! ## A registry in use -/

inductive Operation where
  | learn (v : Value)
  | ask (v : Value)
  /-- The injector that was handed out at the `n`-th asking is told that something was made. -/
  | provide (n : Nat)

/-- A registry, and what was handed out of it. -/
structure Usage where
  registry : TypeRegistry := {}
  handles : List Handle := []

def Usage.perform (u : Usage) : Operation → Except Fault Usage
  | .learn v => (u.registry.addType v).map fun r => { u with registry := r.1 }
  | .ask v => (u.registry.getInjector v).map fun (h, r, _) => ⟨r, u.handles ++ [h]⟩
  | .provide n =>
      match u.handles[n]? with
      | some h => .ok { u with registry := u.registry.markProvided h }
      | none => .ok u

def run (ops : List Operation) : Except Fault Usage := ops.foldlM Usage.perform {}

def Operation.OnType : Operation → Prop
  | .learn v | .ask v => v.StandsForType
  | .provide _ => True

def keyed? (v : Value) : Option (UnitKey × Value) :=
  (UnitKey.ofValue v).toOption.map fun k => (k, v)

/-- The objects that operations use, with their keys. -/
def uses (ops : List Operation) : List (UnitKey × Value) :=
  ops.filterMap fun
    | .learn v | .ask v => keyed? v
    | .provide _ => none

/-- The objects whose injectors operations ask for, with their keys. -/
def asks (ops : List Operation) : List (UnitKey × Value) :=
  ops.filterMap fun
    | .ask v => keyed? v
    | .learn _ | .provide _ => none

/-- An injector was marked that had been handed out for an object with the key. -/
def Marked (ops : List Operation) (k : UnitKey) : Prop :=
  ∃ before n after v, ops = before ++ .provide n :: after ∧ (asks before)[n]? = some (k, v)

/-! ## What learning and asking change -/

section Steps

variable {r : TypeRegistry} {k : UnitKey} {v : Value}

theorem isKnownKey_iff : r.isKnownKey k ↔ k ∈ r.types.map Prod.fst := by
  simp [isKnownKey]

/-- A handle is that of the first injector under the key. -/
theorem handle?_eq (r : TypeRegistry) (k : UnitKey) :
    r.handle? k = if k ∈ r.injectors.map Injector.key then
      some ⟨(r.injectors.map Injector.key).idxOf k⟩ else none := by
  have place : r.injectors.findIdx? (fun i => decide (i.key = k)) =
      (r.injectors.map Injector.key).idxOf? k := by
    rw [List.idxOf?, List.findIdx?_map]
    rfl
  rw [handle?, place]
  by_cases known : k ∈ r.injectors.map Injector.key
  · have found := List.findIdx?_eq_some_iff_findIdx_eq.2 ⟨List.idxOf_lt_length_iff.2 known, rfl⟩
    rw [if_pos known, List.idxOf?, found]
    rfl
  · rw [if_neg known, List.idxOf?_eq_none_iff.2 known]
    rfl

theorem types_learn : (r.learn k v).1.types =
    if k ∈ r.types.map Prod.fst then r.types else r.types ++ [(k, v)] := by
  rw [learn]
  by_cases known : k ∈ r.types.map Prod.fst
  · rw [if_pos (isKnownKey_iff.2 known), if_pos known]
  · rw [if_neg (mt isKnownKey_iff.1 known), if_neg known]

@[simp] theorem injectors_learn : (r.learn k v).1.injectors = r.injectors := by
  rw [learn]
  split <;> rfl

@[simp] theorem types_equip : (r.equip k v).2.types = r.types := by
  rw [equip]
  split <;> rfl

theorem injectors_equip : (r.equip k v).2.injectors =
    if k ∈ r.injectors.map Injector.key then r.injectors
    else r.injectors ++ [{ type := v, key := k }] := by
  rw [equip, handle?_eq]
  by_cases known : k ∈ r.injectors.map Injector.key
  · rw [if_pos known, if_pos known]
  · rw [if_neg known, if_neg known]

/-- What is handed out is the injector that the registry keeps under the key. -/
theorem handle?_equip (r : TypeRegistry) (k : UnitKey) (v : Value) :
    (r.equip k v).2.handle? k = some (r.equip k v).1 := by
  by_cases known : k ∈ r.injectors.map Injector.key
  · have found := handle?_eq r k
    rw [if_pos known] at found
    rw [equip, found]
    exact found
  · have absent := handle?_eq r k
    rw [if_neg known] at absent
    rw [equip, absent, handle?_eq, List.map_append, List.map_singleton,
      if_pos (List.mem_append_right _ (List.mem_singleton_self k)), List.idxOf_append_of_notMem known,
      List.idxOf_cons_self, Nat.add_zero, List.length_map]

/-- A handle that is found under a key is for an injector with that key. -/
theorem at?_of_handle? {h : Handle} (found : r.handle? k = some h) :
    ∃ i, r.at? h = some i ∧ i.key = k := by
  rw [handle?_eq] at found
  split at found
  · next known =>
      cases found
      have stands := List.getElem?_idxOf known
      rwa [List.getElem?_map, Option.map_eq_some_iff] at stands
  · cases found

theorem getInjector_eq (keyed : UnitKey.ofValue v = .ok k) : r.getInjector v =
    .ok (((r.learn k v).1.equip k v).1, ((r.learn k v).1.equip k v).2, (r.learn k v).2) := by
  rw [getInjector, keyed]
  rfl

/-- The injector that a type gets is the one that is kept under its key from then on. -/
theorem getInjector_spec {h : Handle} {r' : TypeRegistry} {notes : Journal}
    (ok : r.getInjector v = .ok (h, r', notes)) :
    ∃ k, UnitKey.ofValue v = .ok k ∧ r'.handle? k = some h := by
  cases keyed : UnitKey.ofValue v with
  | error f =>
      rw [getInjector, keyed] at ok
      cases ok
  | ok k =>
      rw [getInjector_eq keyed] at ok
      cases ok
      exact ⟨k, rfl, handle?_equip _ k v⟩

theorem addType_eq (keyed : UnitKey.ofValue v = .ok k) :
    r.addType v = .ok (r.learn k v) := by
  rw [addType, keyed]
  rfl

end Steps

/-! ## What a registry holds after some operations -/

/-- What a registry in use holds. -/
structure Kept (ops : List Operation) (u : Usage) : Prop where
  keys : u.registry.types.map Prod.fst = ((uses ops).map Prod.fst).eraseDups
  /-- Of the objects with a key the first one is remembered. -/
  first : ∀ k, u.registry.types.lookup k = (uses ops).lookup k
  injectors : u.registry.injectors.map Injector.key = ((asks ops).map Prod.fst).eraseDups
  provided : ∀ i ∈ u.registry.injectors, i.provided ↔ Marked ops i.key
  /-- What is handed out is kept under the key that it was asked for by. -/
  handles : List.Forall₂ (fun h a => u.registry.handle? a.1 = some h) u.handles (asks ops)

section Snoc

variable {ops : List Operation} {op : Operation} {k : UnitKey} {v : Value}

theorem lookup_single (l : UnitKey) : [(k, v)].lookup l = if l = k then some v else none := by
  by_cases same : l = k
  · rw [if_pos same, List.lookup_cons, beq_iff_eq.2 same]
  · rw [if_neg same, List.lookup_cons, beq_eq_false_iff_ne.2 same, List.lookup_nil]

/-- Two lists in step have something at the same places. -/
theorem getElem?_forall₂ {α β : Type} {R : α → β → Prop} {as : List α} {bs : List β}
    (inStep : List.Forall₂ R as bs) (n : Nat) :
    as[n]? = none ∧ bs[n]? = none ∨ ∃ a b, as[n]? = some a ∧ bs[n]? = some b ∧ R a b := by
  induction inStep generalizing n with
  | nil => exact .inl ⟨rfl, rfl⟩
  | cons first _ ih =>
      cases n with
      | zero => exact .inr ⟨_, _, rfl, rfl, first⟩
      | succ n => exact ih n

theorem uses_snoc_keyed (keyed : UnitKey.ofValue v = .ok k) :
    uses (ops ++ [.learn v]) = uses ops ++ [(k, v)] ∧
      uses (ops ++ [.ask v]) = uses ops ++ [(k, v)] := by
  simp [uses, keyed?, keyed, Except.toOption]

theorem uses_snoc_provide (n : Nat) : uses (ops ++ [.provide n]) = uses ops := by
  simp [uses]

theorem asks_snoc_ask (keyed : UnitKey.ofValue v = .ok k) :
    asks (ops ++ [.ask v]) = asks ops ++ [(k, v)] := by
  simp [asks, keyed?, keyed, Except.toOption]

theorem asks_snoc_learn (v : Value) : asks (ops ++ [.learn v]) = asks ops := by
  simp [asks]

theorem asks_snoc_provide (n : Nat) : asks (ops ++ [.provide n]) = asks ops := by
  simp [asks]

theorem marked_snoc : Marked (ops ++ [op]) k ↔
    Marked ops k ∨ ∃ n v, op = .provide n ∧ (asks ops)[n]? = some (k, v) := by
  constructor
  · rintro ⟨before, n, after, v, whole, asked⟩
    rcases List.eq_nil_or_concat after with rfl | ⟨after, last, rfl⟩
    · obtain ⟨rfl, same⟩ := List.append_inj' whole rfl
      exact .inr ⟨n, v, List.head_eq_of_cons_eq same, asked⟩
    · rw [List.concat_eq_append, ← List.cons_append, ← List.append_assoc] at whole
      exact .inl ⟨before, n, after, v, (List.append_inj' whole rfl).1, asked⟩
  · rintro (⟨before, n, after, v, rfl, asked⟩ | ⟨n, v, rfl, asked⟩)
    · exact ⟨before, n, after ++ [op], v, by simp, asked⟩
    · exact ⟨ops, n, [], v, rfl, asked⟩

/-- Only an injector that was asked for is marked. -/
theorem Marked.asked (marked : Marked ops k) : k ∈ (asks ops).map Prod.fst := by
  obtain ⟨before, n, after, v, rfl, asked⟩ := marked
  refine List.mem_map.2 ⟨(k, v), ?_, rfl⟩
  rw [asks, List.filterMap_append]
  exact List.mem_append_left _ (List.mem_of_getElem? asked)

theorem marked_snoc_of_not_provide (other : ∀ n, op ≠ .provide n) :
    Marked (ops ++ [op]) k ↔ Marked ops k := by
  rw [marked_snoc]
  exact or_iff_left fun ⟨n, _, same, _⟩ => other n same

end Snoc

/-- A handle stays the one under its key when injectors are added behind. -/
theorem handle?_append {r r' : TypeRegistry} {k : UnitKey} {h : Handle} {more : List Injector}
    (longer : r'.injectors = r.injectors ++ more) (found : r.handle? k = some h) :
    r'.handle? k = some h := by
  rw [handle?_eq] at found ⊢
  split at found
  · next known =>
      rw [longer, List.map_append, if_pos (List.mem_append_left _ known),
        List.idxOf_append_of_mem known]
      exact found
  · cases found

section Run

variable {ops : List Operation} {u u' : Usage} {k : UnitKey} {v : Value}

theorem kept_nil : Kept [] {} where
  keys := rfl
  first _ := rfl
  injectors := rfl
  provided := nofun
  handles := .nil

/-- The types are kept as they should be when one more is used. -/
theorem types_learn_eq {r : TypeRegistry} {us : List (UnitKey × Value)}
    (keys : r.types.map Prod.fst = (us.map Prod.fst).eraseDups)
    (first : ∀ k, r.types.lookup k = us.lookup k) (k : UnitKey) (v : Value) :
    (r.learn k v).1.types.map Prod.fst = ((us ++ [(k, v)]).map Prod.fst).eraseDups ∧
      ∀ l, (r.learn k v).1.types.lookup l = (us ++ [(k, v)]).lookup l := by
  have known : k ∈ r.types.map Prod.fst ↔ k ∈ us.map Prod.fst := by
    rw [keys, List.mem_eraseDups]
  have lookup_snoc (l : UnitKey) :
      (us ++ [(k, v)]).lookup l = (r.types.lookup l).or (if l = k then some v else none) := by
    rw [List.lookup_append, first, lookup_single]
  rw [types_learn, List.map_append, List.map_singleton, eraseDups_snoc]
  by_cases isKnown : k ∈ r.types.map Prod.fst
  · rw [if_pos isKnown, if_pos (known.1 isKnown)]
    refine ⟨keys, fun l => ?_⟩
    rw [lookup_snoc]
    cases found : r.types.lookup l with
    | some w => rfl
    | none =>
        rw [if_neg, Option.none_or]
        rintro rfl
        obtain ⟨⟨_, w⟩, member, rfl⟩ := List.mem_map.1 isKnown
        exact absurd (List.lookup_eq_none_iff.1 found _ member) (by simp)
  · rw [if_neg isKnown, if_neg (mt known.2 isKnown), List.map_append, keys]
    refine ⟨rfl, fun l => ?_⟩
    rw [lookup_snoc, List.lookup_append, lookup_single]

theorem Kept.learn (kept : Kept ops u) (keyed : UnitKey.ofValue v = .ok k) :
    Kept (ops ++ [.learn v]) { u with registry := (u.registry.learn k v).1 } := by
  obtain ⟨keys, first⟩ := types_learn_eq kept.keys kept.first k v
  rw [← (uses_snoc_keyed keyed).1] at keys first
  refine ⟨keys, first, ?_, fun i member => ?_, ?_⟩
  · rw [injectors_learn, asks_snoc_learn]
    exact kept.injectors
  · rw [injectors_learn] at member
    rw [marked_snoc_of_not_provide fun _ same => by cases same]
    exact kept.provided i member
  · rw [asks_snoc_learn]
    exact kept.handles.imp fun h a found =>
      handle?_append (injectors_learn.trans (List.append_nil _).symm) found

theorem Kept.ask (kept : Kept ops u) (keyed : UnitKey.ofValue v = .ok k) :
    Kept (ops ++ [.ask v]) ⟨((u.registry.learn k v).1.equip k v).2,
      u.handles ++ [((u.registry.learn k v).1.equip k v).1]⟩ := by
  obtain ⟨keys, first⟩ := types_learn_eq kept.keys kept.first k v
  rw [← (uses_snoc_keyed keyed).2] at keys first
  have known : k ∈ u.registry.injectors.map Injector.key ↔ k ∈ (asks ops).map Prod.fst := by
    rw [kept.injectors, List.mem_eraseDups]
  have injectors : ((u.registry.learn k v).1.equip k v).2.injectors =
      u.registry.injectors ++ if k ∈ u.registry.injectors.map Injector.key then []
        else [{ type := v, key := k }] := by
    rw [injectors_equip, injectors_learn]
    split
    · exact (List.append_nil _).symm
    · rfl
  constructor
  case keys => rwa [types_equip]
  case first => rwa [types_equip]
  case injectors =>
    rw [injectors, asks_snoc_ask keyed, List.map_append, List.map_append, List.map_singleton,
      eraseDups_snoc, kept.injectors]
    by_cases isKnown : k ∈ (asks ops).map Prod.fst
    · rw [if_pos isKnown, if_pos (List.mem_eraseDups.2 isKnown), List.map_nil, List.append_nil]
    · rw [if_neg isKnown, if_neg (mt List.mem_eraseDups.1 isKnown)]
      rfl
  case provided =>
    intro j member
    rw [marked_snoc_of_not_provide fun _ same => by cases same]
    rw [injectors] at member
    rcases List.mem_append.1 member with member | member
    · exact kept.provided j member
    · split at member
      · cases member
      · next isNew =>
          rw [List.mem_singleton.1 member]
          exact iff_of_false nofun fun marked => isNew (known.2 marked.asked)
  case handles =>
    rw [asks_snoc_ask keyed]
    exact List.rel_append (kept.handles.imp fun h a found => handle?_append injectors found)
      (.cons (handle?_equip _ k v) .nil)

theorem keys_markProvided (r : TypeRegistry) (h : Handle) :
    (r.markProvided h).injectors.map Injector.key = r.injectors.map Injector.key := by
  refine List.ext_getElem? fun n => ?_
  rw [markProvided, updateInjector, List.getElem?_map, List.getElem?_map, List.getElem?_modify]
  cases r.injectors[n]? with
  | none => rfl
  | some i =>
      simp only [Option.map_eq_map, Option.map_some]
      split <;> rfl

/-- A mark changes the injector of the handle, and no other. -/
theorem mem_injectors_markProvided {r : TypeRegistry} {h : Handle} {k : UnitKey} {i : Injector}
    (distinct : (r.injectors.map Injector.key).Nodup) (found : r.handle? k = some h)
    (member : i ∈ (r.markProvided h).injectors) :
    i.key = k ∧ i.provided ∨ i.key ≠ k ∧ i ∈ r.injectors := by
  obtain ⟨j, stands, isKey⟩ := at?_of_handle? found
  obtain ⟨n, there⟩ := List.mem_iff_getElem?.1 member
  rw [markProvided, updateInjector, List.getElem?_modify] at there
  by_cases same : h.place = n
  · have stands : r.injectors[n]? = some j := same ▸ stands
    rw [stands] at there
    simp only [Option.map_eq_map, Option.map_some, if_pos same, Option.some.injEq] at there
    exact .inl ⟨there ▸ isKey, there ▸ rfl⟩
  · simp only [if_neg same, Option.map_eq_map, Option.map_id_fun', id] at there
    refine .inr ⟨fun isKey' => same ?_, List.mem_iff_getElem?.2 ⟨n, there⟩⟩
    have first : (r.injectors.map Injector.key)[h.place]? = some k := by
      rw [List.getElem?_map, show r.injectors[h.place]? = some j from stands, Option.map_some, isKey]
    have second : (r.injectors.map Injector.key)[n]? = some k := by
      rw [List.getElem?_map, there, Option.map_some, isKey']
    exact (List.getElem?_inj (List.getElem?_eq_some_iff.1 first).1 distinct).1
      (first.trans second.symm)

theorem marked_snoc_provide {n : Nat} {a : UnitKey × Value} (asked : (asks ops)[n]? = some a) :
    Marked (ops ++ [.provide n]) k ↔ Marked ops k ∨ k = a.1 := by
  rw [marked_snoc]
  refine or_congr_right ⟨?_, ?_⟩
  · rintro ⟨_, v, ⟨⟩, asked'⟩
    cases asked.symm.trans asked'
    rfl
  · rintro rfl
    exact ⟨n, a.2, rfl, asked⟩

theorem Kept.distinct (kept : Kept ops u) : (u.registry.injectors.map Injector.key).Nodup :=
  kept.injectors ▸ nodup_eraseDups _

theorem Kept.mark (kept : Kept ops u) {n : Nat} {a : UnitKey × Value} {h : Handle}
    (asked : (asks ops)[n]? = some a) (found : u.registry.handle? a.1 = some h) :
    Kept (ops ++ [.provide n]) { u with registry := u.registry.markProvided h } where
  keys := (uses_snoc_provide n).symm ▸ kept.keys
  first := (uses_snoc_provide n).symm ▸ kept.first
  injectors := by
    rw [keys_markProvided, asks_snoc_provide]
    exact kept.injectors
  provided i member := by
    rw [marked_snoc_provide asked]
    rcases mem_injectors_markProvided kept.distinct found member with
      ⟨isKey, provided⟩ | ⟨other, stands⟩
    · exact iff_of_true provided (.inr isKey)
    · rw [or_iff_left other]
      exact kept.provided i stands
  handles := by
    rw [asks_snoc_provide]
    refine kept.handles.imp fun h' b kept' => ?_
    rwa [handle?_eq, keys_markProvided, ← handle?_eq]

theorem Kept.provide (kept : Kept ops u) (n : Nat) :
    ∃ u', u.perform (.provide n) = .ok u' ∧ Kept (ops ++ [.provide n]) u' := by
  rw [Usage.perform]
  rcases getElem?_forall₂ kept.handles n with ⟨none, none'⟩ | ⟨h, a, handed, asked, found⟩
  · have same (k : UnitKey) : Marked (ops ++ [.provide n]) k ↔ Marked ops k := by
      rw [marked_snoc]
      refine or_iff_left ?_
      rintro ⟨_, v, ⟨⟩, asked⟩
      cases none'.symm.trans asked
    rw [none]
    refine ⟨u, rfl, ?_, ?_, ?_, fun i member => ?_, ?_⟩
    · exact (uses_snoc_provide n).symm ▸ kept.keys
    · exact (uses_snoc_provide n).symm ▸ kept.first
    · exact (asks_snoc_provide n).symm ▸ kept.injectors
    · rw [same]
      exact kept.provided i member
    · exact (asks_snoc_provide n).symm ▸ kept.handles
  · rw [handed]
    exact ⟨_, rfl, kept.mark asked found⟩

/-- **One step**: an operation on an object that stands for a type is carried out, and the registry
holds what it should. -/
theorem Kept.perform (kept : Kept ops u) {op : Operation} (onType : op.OnType) :
    ∃ u', u.perform op = .ok u' ∧ Kept (ops ++ [op]) u' := by
  cases op with
  | learn v =>
      obtain ⟨k, keyed⟩ := Value.StandsForType.keyed onType
      refine ⟨_, ?_, kept.learn keyed⟩
      rw [Usage.perform, addType_eq keyed]
      rfl
  | ask v =>
      obtain ⟨k, keyed⟩ := Value.StandsForType.keyed onType
      refine ⟨_, ?_, kept.ask keyed⟩
      rw [Usage.perform, getInjector_eq keyed]
      rfl
  | provide n => exact kept.provide n

/-- **A run**, from the step. -/
theorem run_kept (ops : List Operation) (onTypes : ∀ op ∈ ops, op.OnType) :
    ∃ u, run ops = .ok u ∧ Kept ops u := by
  induction ops using List.reverseRecOn with
  | nil => exact ⟨{}, rfl, kept_nil⟩
  | append_singleton ops op ih =>
      obtain ⟨earlier, last⟩ := List.forall_mem_append.1 onTypes
      obtain ⟨u, ran, kept⟩ := ih earlier
      obtain ⟨u', performed, kept'⟩ := kept.perform (last op (List.mem_singleton_self op))
      refine ⟨u', ?_, kept'⟩
      rw [run, List.foldlM_append]
      exact (congrArg (· >>= [op].foldlM Usage.perform) ran).trans
        ((List.foldlM_cons ..).trans (congrArg (· >>= [].foldlM Usage.perform) performed))

/-! ## One injector for every type -/

/-- What a registry holds after some operations, in terms of the objects that they are about. -/
structure Shared (ops : List Operation) (u : Usage) : Prop where
  /-- The types are known by the first object of every key, in the order in which the keys were
  first used. -/
  knownTypes : u.registry.knownTypes =
    ((uses ops).map Prod.fst).eraseDups.filterMap fun k => (uses ops).lookup k
  /-- What is handed out is the injector that the registry keeps under the key of the object, and
  still keeps after all operations. -/
  handed : ∀ (n : Nat) (a : UnitKey × Value), (asks ops)[n]? = some a → ∃ h : Handle,
    u.handles[n]? = some h ∧ u.registry.handle? a.1 = some h ∧
      ∃ i : Injector, u.registry.at? h = some i ∧ i.key = a.1
  /-- The same injector is handed out twice exactly for objects with the same key. -/
  same_iff : ∀ (m n : Nat) (a b : UnitKey × Value) (g h : Handle), (asks ops)[m]? = some a →
    (asks ops)[n]? = some b → u.handles[m]? = some g → u.handles[n]? = some h →
      (g = h ↔ a.1 = b.1)
  /-- Something was made for a type exactly when one of its injectors was told so. -/
  isProvided : ∀ v k, UnitKey.ofValue v = .ok k →
    ∃ b, u.registry.isProvided v = .ok b ∧ (b ↔ Marked ops k)
  /-- A type with an injector is known. -/
  known : ∀ i ∈ u.registry.injectors, u.registry.isKnownKey i.key

theorem asks_subset_uses {a : UnitKey × Value} (asked : a ∈ asks ops) : a ∈ uses ops := by
  obtain ⟨op, member, same⟩ := List.mem_filterMap.1 asked
  refine List.mem_filterMap.2 ⟨op, member, ?_⟩
  cases op with
  | ask v => exact same
  | learn v | provide n => cases same

/-- Entries with keys of their own are what is found under the keys. -/
theorem filterMap_lookup {es : List (UnitKey × Value)} (distinct : (es.map Prod.fst).Nodup) :
    (es.map Prod.fst).filterMap (fun k => es.lookup k) = es.map Prod.snd := by
  induction es with
  | nil => rfl
  | cons e es ih =>
      obtain ⟨isNew, distinct⟩ := List.nodup_cons.1 distinct
      have own : (e :: es).lookup e.1 = some e.2 := by rw [List.lookup_cons, beq_self_eq_true]
      have others : ∀ k ∈ es.map Prod.fst, (e :: es).lookup k = es.lookup k := by
        intro k member
        have other : k ≠ e.1 := fun same => isNew (same ▸ member)
        rw [List.lookup_cons, beq_eq_false_iff_ne.2 other]
      rw [List.map_cons, List.filterMap_cons, own, List.filterMap_congr others, ih distinct]
      rfl

/-- What was handed out for an object is kept under its key. -/
theorem Kept.handle?_eq (kept : Kept ops u) {n : Nat} {a : UnitKey × Value}
    (asked : (asks ops)[n]? = some a) :
    ∃ h, u.handles[n]? = some h ∧ u.registry.handle? a.1 = some h := by
  rcases getElem?_forall₂ kept.handles n with ⟨-, none⟩ | ⟨h, a', handed, asked', found⟩
  · cases none.symm.trans asked
  · cases asked'.symm.trans asked
    exact ⟨h, handed, found⟩

theorem Kept.shared (kept : Kept ops u) : Shared ops u where
  knownTypes := by
    have distinct := kept.keys ▸ nodup_eraseDups _
    rw [knownTypes, ← filterMap_lookup distinct, kept.keys]
    exact List.filterMap_congr fun k _ => kept.first k
  handed n a asked := by
    obtain ⟨h, handed, found⟩ := kept.handle?_eq asked
    exact ⟨h, handed, found, at?_of_handle? found⟩
  same_iff m n a b g h asked asked' handed handed' := by
    obtain ⟨g', first, found⟩ := kept.handle?_eq asked
    obtain ⟨h', second, found'⟩ := kept.handle?_eq asked'
    cases first.symm.trans handed
    cases second.symm.trans handed'
    constructor
    · rintro rfl
      -- an injector has one key
      obtain ⟨i, stands, isKey⟩ := at?_of_handle? found
      obtain ⟨j, stands', isKey'⟩ := at?_of_handle? found'
      cases stands.symm.trans stands'
      exact isKey.symm.trans isKey'
    · intro same
      rw [same] at found
      exact Option.some.inj (found.symm.trans found')
  isProvided v k keyed := by
    have answer : u.registry.isProvided v = .ok ((((u.registry.handle? k).bind
        u.registry.at?).map Injector.provided).getD false) := by
      rw [isProvided, keyed]
      rfl
    refine ⟨_, answer, ?_⟩
    cases found : u.registry.handle? k with
    | some h =>
        obtain ⟨i, stands, isKey⟩ := at?_of_handle? found
        rw [Option.bind_some, stands]
        exact isKey ▸ kept.provided i (List.mem_of_getElem? stands)
    | none =>
        rw [TypeRegistry.handle?_eq] at found
        split at found
        · cases found
        · next absent =>
            rw [kept.injectors, List.mem_eraseDups] at absent
            exact iff_of_false nofun fun marked => absent marked.asked
  known i member := by
    have asked : i.key ∈ (asks ops).map Prod.fst := by
      rw [← List.mem_eraseDups, ← kept.injectors]
      exact List.mem_map_of_mem member
    obtain ⟨a, member, same⟩ := List.mem_map.1 asked
    rw [isKnownKey_iff, kept.keys, List.mem_eraseDups, ← same]
    exact List.mem_map_of_mem (asks_subset_uses member)

/-- **One injector for every type.**  Operations on texts, classes and keys are all carried out,
and then the registry holds one object for every type and one injector for every type that was
asked for, whatever was used for it, a class or the text of its name. -/
theorem one_injector_each (ops : List Operation) (onTypes : ∀ op ∈ ops, op.OnType) :
    (∃ u, run ops = .ok u ∧ Shared ops u) ∧ ∀ v n, v.isClass → v.qualifiedName = .ok n → n ≠ "" →
      UnitKey.ofValue (.str n) = UnitKey.ofValue v := by
  refine ⟨?_, fun v n isClass named some => ?_⟩
  · obtain ⟨u, ran, kept⟩ := run_kept ops onTypes
    exact ⟨u, ran, kept.shared⟩
  · rw [UnitKey.ofValue_text some, UnitKey.ofValue_of_isClass isClass named]

end Run

namespace Sample

def shop : Value := .classRef (some "app") "Shop" []

/-- A class is used by its name, by itself and by its key, and one of its injectors is marked. -/
def dealings : List Operation :=
  [.learn (.str "app.Shop"), .ask shop, .ask (.key ⟨"app.Till", .type⟩), .ask (.str "app.Shop"),
   .provide 2]

/-- The class and the text of its name share an injector, and the other type has its own. -/
theorem one_injector_for_shop :
    (∀ op ∈ dealings, op.OnType) ∧ shop.isClass ∧ shop.qualifiedName = .ok "app.Shop" ∧
      UnitKey.ofValue (.str "app.Shop") = UnitKey.ofValue shop ∧
      ∃ u, run dealings = .ok u ∧ Shared dealings u ∧ u.handles = [⟨0⟩, ⟨1⟩, ⟨0⟩] ∧
        u.registry.isProvided shop = .ok true ∧
        u.registry.isProvided (.str "app.Till") = .ok false := by
  have onTypes : ∀ op ∈ dealings, op.OnType :=
    List.forall_mem_cons.2 ⟨.text (by decide), List.forall_mem_cons.2 ⟨.cls rfl,
      List.forall_mem_cons.2 ⟨.key _, List.forall_mem_cons.2 ⟨.text (by decide),
        List.forall_mem_cons.2 ⟨trivial, nofun⟩⟩⟩⟩⟩
  obtain ⟨⟨u, ran, shared⟩, sameKey⟩ := one_injector_each dealings onTypes
  refine ⟨onTypes, rfl, by rfl, sameKey shop "app.Shop" rfl (by rfl) (by decide), u, ran, shared, ?_⟩
  obtain ⟨w, ran', places, provided, unprovided⟩ : ∃ w, run dealings = .ok w ∧
      w.handles = [⟨0⟩, ⟨1⟩, ⟨0⟩] ∧ w.registry.isProvided shop = .ok true ∧
      w.registry.isProvided (.str "app.Till") = .ok false :=
    ⟨_, by rfl, by decide +kernel, by decide +kernel, by decide +kernel⟩
  cases ran.symm.trans ran'
  exact ⟨places, provided, unprovided⟩

end Sample

end TypeRegistry

end Marking
