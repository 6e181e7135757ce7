/-
# Marking.Proofs.Report.Missing -- what a serialised report tells of missing needs

A report lists the needs that no unit provides, unit by unit, under the keys of the units.  Its
serialised form is a dictionary by the names of these keys, and a key is more than its name: a
handler may put work under a key of another kind.  Of two listed units whose keys share a name,
the dictionary shows the later one alone (`Sample.lookalike_hidden`).

So the dictionary has an entry for every listed unit exactly when the names differ, and then it
tells everything (`MissingTold`).  The names differ in every run whose units of one name are of
one kind, such as a run in which all work goes under the keys of its owners.
-/
import Mathlib.Data.List.Sort
import Marking.Proofs.Engine.Conservation
import Marking.Proofs.Report.Views

set_option autoImplicit false

namespace Marking

variable {σ : Type}

/-! ## Serialised dictionaries -/

def Value.lookup? (v : Value) (name : String) : Option Value :=
  match v with
  | .dict es => (es.find? fun e => match e.1 with
      | .str s => s == name
      | _ => false).map Prod.snd
  | _ => none

/-- A dictionary by name as a value. -/
def Value.ofNamed {α : Type} (f : α → Value) (kept : List (String × α)) : Value :=
  .dict (kept.map fun e => (.str e.1, f e.2))

theorem Value.lookup?_ofNamed {α : Type} (f : α → Value) (kept : List (String × α)) (name : String) :
    (ofNamed f kept).lookup? name = (kept.find? fun e => e.1 == name).map fun e => f e.2 := by
  rw [ofNamed, lookup?, List.find?_map, Option.map_map]
  rfl

/-- What stands under a name that comes once is found there. -/
theorem find?_of_distinct {α : Type} {kept : List (String × α)}
    (distinct : (kept.map Prod.fst).Nodup) {e : String × α} (member : e ∈ kept) :
    (kept.find? fun p => p.1 == e.1) = some e := by
  cases found : kept.find? fun p => p.1 == e.1 with
  | none => exact absurd (beq_self_eq_true e.1) (List.find?_eq_none.1 found e member)
  | some p =>
      have same : (p.1 == e.1) = true := by simpa using List.find?_some found
      rw [List.inj_on_of_nodup_map distinct (List.mem_of_find?_eq_some found) member
        (beq_iff_eq.1 same)]

namespace Report

variable {report : Report}

def nameOf (m : UnitKey × List UnitKey) : String := m.1.name

def sortedNames (ks : List UnitKey) : List String :=
  (ks.map UnitKey.name).mergeSort fun a b => !Text.textLt b a

/-- The serialised report tells, under the name of the first key, that the second one is missing. -/
def Tells (report : Report) (k l : UnitKey) : Prop :=
  ∃ table names, report.toValue.lookup? "missing_dependencies" = some table ∧
    table.lookup? k.name = some (.list names) ∧ Value.str l.name ∈ names

theorem lookup?_missing (report : Report) :
    report.toValue.lookup? "missing_dependencies" =
      some (.ofNamed (fun names => .list (names.map .str)) report.missingByName) := rfl

theorem mem_sortedNames {ks : List UnitKey} {name : String} :
    name ∈ sortedNames ks ↔ ∃ k ∈ ks, k.name = name := by
  rw [sortedNames, List.mem_mergeSort, List.mem_map]

/-- The dictionary shows, for every name, the last listed unit of that name. -/
theorem mem_missingByName_iff {p : String × List String} :
    p ∈ report.missingByName ↔
      ∃ m, LastOf nameOf report.missing m ∧ p = (m.1.name, sortedNames m.2) := by
  rw [missingByName, mem_byName_iff]
  exact lastOf_map fun m => rfl

/-- The listed units by name, before a dictionary is made of them. -/
def named (report : Report) : List (String × List String) :=
  report.missing.map fun m => (m.1.name, sortedNames m.2)

theorem map_fst_named (report : Report) :
    report.named.map Prod.fst = report.missing.map nameOf := by
  rw [named, List.map_map]
  rfl

/-- The dictionary has no more entries than there are listed units, and as many when their names
differ. -/
theorem length_missingByName (report : Report) :
    report.missingByName.length ≤ report.missing.length ∧
      (report.missingByName.length = report.missing.length ↔ (report.missing.map nameOf).Nodup) := by
  have size : report.named.length = report.missing.length := List.length_map _
  have weighed : ∀ p ∈ report.named, 0 < 1 := fun _ _ => Nat.one_pos
  obtain ⟨bound, distinct⟩ := total_byName (fun _ => 1) weighed
  simp only [List.map_const', List.sum_replicate_nat, mul_one, size, map_fst_named]
    at bound distinct
  refine ⟨bound, distinct, fun differ => ?_⟩
  rw [← map_fst_named] at differ
  exact (congrArg List.length (byName_of_distinct differ)).trans size

/-- A need is told under a name exactly when the last listed unit of the name misses one of its
name. -/
theorem tells_iff {k l : UnitKey} : report.Tells k l ↔
    ∃ m, LastOf nameOf report.missing m ∧ m.1.name = k.name ∧ ∃ d ∈ m.2, d.name = l.name := by
  constructor
  · rintro ⟨table, names, isTable, isList, member⟩
    rw [lookup?_missing] at isTable
    cases isTable
    rw [Value.lookup?_ofNamed, Option.map_eq_some_iff] at isList
    obtain ⟨p, found, same⟩ := isList
    cases same
    obtain ⟨m, last, rfl⟩ := mem_missingByName_iff.1 (List.mem_of_find?_eq_some found)
    obtain ⟨name, inNames, same⟩ := List.mem_map.1 member
    cases same
    have named : m.1.name = k.name := by simpa using List.find?_some found
    exact ⟨m, last, named, mem_sortedNames.1 inNames⟩
  · rintro ⟨m, last, named, inNeeds⟩
    refine ⟨_, (sortedNames m.2).map .str, report.lookup?_missing, ?_, ?_⟩
    · have member := mem_missingByName_iff.2 ⟨m, last, rfl⟩
      have found := find?_of_distinct (names_byName_nodup _) member
      rw [Value.lookup?_ofNamed, ← named]
      exact congrArg (Option.map _) found
    · exact List.mem_map_of_mem (mem_sortedNames.2 inNeeds)

/-- A unit whose name comes once is the last one of its name. -/
theorem lastOf_of_distinct {m : UnitKey × List UnitKey} (differ : (report.missing.map nameOf).Nodup)
    (member : m ∈ report.missing) : LastOf nameOf report.missing m := by
  obtain ⟨front, back, split⟩ := List.append_of_mem member
  refine ⟨front, back, split, fun y later same => ?_⟩
  rw [split, List.map_append, List.map_cons, List.nodup_append] at differ
  have fresh := (List.nodup_cons.1 differ.2.1).1
  exact fresh (same ▸ List.mem_map_of_mem later)

end Report

/-! ## Runs -/

namespace DependencyGraph

variable {α : Type}

/-- The needs of a unit that no unit provides. -/
def unprovided (us : List (WorkUnit α)) (u : WorkUnit α) : List UnitKey :=
  u.needs.filter fun k => decide (k ∉ us.map WorkUnit.key)

/-- The units are listed whose needs are not all provided. -/
theorem missing_ofUnits {us : List (WorkUnit α)} (distinct : DistinctKeys us) :
    (ofUnits us).missing =
      (us.map fun u => (u.key, unprovided us u)).filter fun m => !m.2.isEmpty := by
  have nodes : (ofUnits us).units = us := firstUnits_of_distinct distinct
  have same : ∀ u, (ofUnits us).missingOf u = unprovided us u := by
    intro u
    refine List.filter_congr fun k _ => ?_
    rw [Bool.eq_iff_iff, Bool.not_eq_true', Bool.eq_false_iff, Ne, contains_iff, keys, nodes,
      decide_eq_true_iff]
  simp only [missing, nodes, same]

end DependencyGraph

theorem Engine.planStages_missing {e e' : Engine σ} {scanner : Scanner} {ctx : Context}
    {w w' : World σ} {plan : Plan σ} (ok : e.planStages scanner ctx w = (.ok plan, e', w')) :
    plan.missing = (DependencyGraph.ofUnits e'.units.units).missing := by
  unfold planStages at ok
  split at ok
  · cases ok
  · split at ok
    · cases ok
    · cases ok
      rfl

theorem Engine.perform_missing {τ : Type} {process : Entry.Process τ (Delegate σ)} {plan : Plan σ}
    {e e' : Engine σ} {w w' : World τ} {report : Report}
    (ok : perform process plan e w = (.ok report, e', w')) : report.missing = plan.missing := by
  unfold perform at ok
  split at ok
  · cases ok
  · split at ok
    · cases ok
    · cases ok
      rfl

/-- What a run that returns the report tells of the needs that no unit provides. -/
structure MissingTold (r : Run σ) (report : Report) : Prop where
  /-- The report lists them unit by unit, where there are any. -/
  listed : report.missing =
    (r.finished.units.units.map fun u =>
      (u.key, DependencyGraph.unprovided r.finished.units.units u)).filter fun m => !m.2.isEmpty
  /-- No unit is listed twice. -/
  distinct : (report.missing.map Prod.fst).Nodup
  /-- Serialised, it has an entry for each listed unit exactly when the names of these differ. -/
  entries : ∃ es, report.toValue.lookup? "missing_dependencies" = some (.dict es) ∧
    es.length ≤ report.missing.length ∧
    (es.length = report.missing.length ↔ (report.missing.map Report.nameOf).Nodup)
  /-- Then it tells everything that is missing. -/
  complete : (report.missing.map Report.nameOf).Nodup →
    ∀ m ∈ report.missing, ∀ l ∈ m.2, report.Tells m.1 l
  /-- Otherwise it tells of the last unit of every name. -/
  told_iff : ∀ k l, report.Tells k l ↔
    ∃ m, LastOf Report.nameOf report.missing m ∧ m.1.name = k.name ∧ ∃ d ∈ m.2, d.name = l.name
  /-- The names differ when work that goes under one name goes under one kind. -/
  differ : (∀ x ∈ r.discovered, ∀ y ∈ r.discovered, x.unitKey.name = y.unitKey.name →
    x.unitKey.kind = y.unitKey.kind) → (report.missing.map Report.nameOf).Nodup

/-- The report is about the graph of the units that the run leaves. -/
theorem Run.Returns.missing_eq {r : Run σ} {report : Report} (returns : r.Returns report) :
    r.finished.units.Folds (r.discovered.map Delegate.unit) ∧
      report.missing = (DependencyGraph.ofUnits r.finished.units.units).missing := by
  obtain ⟨plan, e, first, w, e', w', n, retrying⟩ := returns.retrying
  obtain ⟨later, performed⟩ := retrying.performed
  obtain ⟨plan₀, e₀, w₀, e₁, w₁, planned, ran, -, -⟩ := returns.recorded
  have ordered := retrying.ordered.ordered
  rw [Run.ordered, planned] at ordered
  obtain ⟨-, settled⟩ := Run.ordered_spec planned ordered
  have units : e.units = e₀.units := by
    rw [← Engine.units_settleAll e, settled, Engine.units_settleAll]
  refine ⟨performed.units_eq ▸ performed.planned.units, ?_⟩
  rw [Engine.perform_missing ran, Engine.planStages_missing planned, performed.units_eq, units]

/-- **A serialised report tells of missing needs by the names of units**, of all of them when the
names differ. -/
theorem Run.Returns.missing_told {r : Run σ} {report : Report} (returns : r.Returns report) :
    MissingTold r report := by
  obtain ⟨folds, missing⟩ := returns.missing_eq
  have listed := DependencyGraph.missing_ofUnits folds.distinctKeys
  rw [← missing] at listed
  have keys : (report.missing.map Prod.fst).Sublist r.finished.units.keys := by
    rw [listed]
    refine (List.filter_sublist.map Prod.fst).trans ?_
    rw [List.map_map]
    exact List.Sublist.refl _
  have distinct : (report.missing.map Prod.fst).Nodup := folds.distinctKeys.sublist keys
  refine
    { listed, distinct
      entries := ⟨_, report.lookup?_missing, ?_⟩
      complete := fun differ m member l missing => ?_
      told_iff := fun k l => Report.tells_iff
      differ := fun kinds => ?_ }
  · rw [List.length_map]
    exact report.length_missingByName
  · exact Report.tells_iff.2 ⟨m, Report.lastOf_of_distinct differ member, rfl, l, missing, rfl⟩
  · have known : ∀ m ∈ report.missing, ∃ x ∈ r.discovered, x.unitKey = m.1 := by
      intro m member
      have inTable := folds.mem_keys.1 (keys.subset (List.mem_map_of_mem member))
      rw [List.map_map] at inTable
      exact List.mem_map.1 inTable
    have separate := List.Nodup.of_map _ distinct
    -- Two listed units of one name would have keys of one kind too, and no key is listed twice.
    refine (List.nodup_map_iff_inj_on separate).2 fun m mMember n nMember same => ?_
    obtain ⟨x, xMember, xKey⟩ := known m mMember
    obtain ⟨y, yMember, yKey⟩ := known n nMember
    have kind := kinds x xMember y yMember (by rw [xKey, yKey]; exact same)
    rw [xKey, yKey] at kind
    refine List.inj_on_of_nodup_map distinct mMember nMember ?_
    exact congrArg₂ UnitKey.mk same kind

namespace Sample

/-- Puts a type called "side" under the method `x` and every other one under the type `x`, and
asks for a type that no unit provides, for each a different one. -/
def lookalike : Handler Bool :=
  { handler true with
    check := fun _ v c w =>
      match v.declaration.owner with
      | .str "side" => (.ok (.str "q"), { c with key := ⟨"x", .method⟩ }, w)
      | _ => (.ok (.str "p"), { c with key := ⟨"x", .type⟩ }, w) }

/-- A run whose two units have keys of one name. -/
def lookalikes : Run Bool where
  engine := { registry := { handlers := [(made, lookalike)], rules := [(made, [])] } }
  scanner := .fixed [declaration "top", declaration "side"]
  context := {}
  world := { own := false }

/-- Of two units with keys of one name, the dictionary has one entry, and does not tell what the
earlier one misses. -/
theorem lookalike_hidden :
    ∃ report, lookalikes.Returns report ∧ report.missing.length = 2 ∧
      report.toValue.lookup? "missing_dependencies" =
        some (.dict [(.str "x", .list [.str "q"])]) ∧
      ∃ m ∈ report.missing, ∃ l ∈ m.2, ¬ report.Tells m.1 l := by
  have hides : lookalikes.passes (fun report => decide (
      report.missing = [(⟨"x", .type⟩, [⟨"p", .type⟩]), (⟨"x", .method⟩, [⟨"q", .type⟩])] ∧
      report.missingByName = [("x", ["q"])])) = true := by
    decide +kernel
  obtain ⟨report, returns, shown⟩ := Run.returns_of_passes hides
  obtain ⟨missing, byName⟩ := of_decide_eq_true shown
  have table : report.toValue.lookup? "missing_dependencies" =
      some (.dict [(.str "x", .list [.str "q"])]) := by
    rw [Report.lookup?_missing, byName]
    rfl
  refine ⟨report, returns, by rw [missing]; rfl, table, (⟨"x", .type⟩, [⟨"p", .type⟩]),
    by rw [missing]; exact List.mem_cons_self, ⟨"p", .type⟩, List.mem_singleton_self _, ?_⟩
  rintro ⟨_, names, isTable, isList, member⟩
  cases table.symm.trans isTable
  cases isList
  exact absurd (Value.str.inj (List.mem_singleton.1 member)) (by decide)

/-- The report itself lists both. -/
theorem lookalikes_told :
    ∃ report : Report, report.missing.length = 2 ∧ MissingTold lookalikes report := by
  have two : lookalikes.passes (fun report => report.missing.length == 2) = true := by
    decide +kernel
  obtain ⟨report, returns, length⟩ := Run.returns_of_passes two
  exact ⟨report, beq_iff_eq.1 length, returns.missing_told⟩

end Sample

end Marking
