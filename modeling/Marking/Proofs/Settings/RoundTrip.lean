/-
# Marking.Proofs.Settings.RoundTrip -- settings that are written and read again

Settings that were read have one round or more, and so have settings that were changed.  That is
all that the reading asks of the dictionary that settings are written as, and so they come back
(`ofValue_toValue_iff`).  A document brings them back if it denotes that dictionary
(`read_of_denotes`).

A change gives some settings a value and keeps the others (`Overrides.Changes`).  It is refused if
it leaves no round, and only then (`withOverrides_eq_ok`).  Changes by the names of the settings,
which may be of any value, do the same with values of the proper types (`changed_byName`).
-/
import Marking.Proofs.Settings.Reading
import Marking.Settings.Draft

set_option autoImplicit false

namespace Marking.Settings

variable {s s' : Settings} {o : Overrides} {os : List Overrides}

/-! ## Dictionaries -/

theorem mapM_text_str (names : List String) :
    (names.map Value.str).mapM Value.text = .ok names := by
  induction names with
  | nil => rfl
  | cons name names ih =>
      rw [List.map_cons, List.mapM_cons, ih]
      rfl

/-- The entries that settings are written as are what settings with a round are read from. -/
theorem reads_toEntries (worked : 1 ≤ s.maxRounds) : Reads s.toEntries s where
  known := rfl
  packages := by
    have found : valueOf? s.toEntries "packages" = some (.list (s.packages.map .str)) := by
      simp [toEntries, valueOf?_cons]
    rw [found]
    exact ⟨_, rfl, mapM_text_str s.packages⟩
  mergePolicy := by
    have found : valueOf? s.toEntries "merge_policy" = some (.str s.mergePolicy.word) := by
      simp [toEntries, valueOf?_cons]
    rw [found, policyOf, MergePolicy.ofWord?_word]
  testMode := by
    cases mode : s.testMode with
    | none =>
        have found : valueOf? s.toEntries "test_mode" = some .null := by
          simp [toEntries, valueOf?_cons, mode]
        rw [found, testModeOf]
    | some b =>
        have found : valueOf? s.toEntries "test_mode" = some (.bool b) := by
          simp [toEntries, valueOf?_cons, mode]
        rw [found, testModeOf]
  strictOrder := by
    have found : valueOf? s.toEntries "strict_order" = some (.bool s.strictOrder) := by
      simp [toEntries, valueOf?_cons]
    rw [found]
    rfl
  maxRounds := by
    have found : valueOf? s.toEntries "max_rounds" = some (.int s.maxRounds) := by
      simp [toEntries, valueOf?_cons]
    rw [found]
    rfl
  handlerGroup := by
    have found : valueOf? s.toEntries "handler_group" = some (.str s.handlerGroup) := by
      simp [toEntries, valueOf?_cons]
    rw [found]
    rfl
  worked := worked

/-- Settings come back from their dictionary exactly when they have a round. -/
theorem ofValue_toValue_iff : ofValue s.toValue = .ok s ↔ 1 ≤ s.maxRounds := by
  rw [toValue, (readingEnds s.toEntries).returns_iff]
  exact ⟨Reads.worked, reads_toEntries⟩

/-- Settings that are read from any value have a round. -/
theorem worked_of_ofValue {v : Value} (read : ofValue v = .ok s) : 1 ≤ s.maxRounds := by
  rw [ofValue] at read
  cases entries : entriesOf v with
  | error f =>
      rw [entries] at read
      cases read
  | ok es =>
      rw [entries, Except.bind, ← ofValue_dict, (readingEnds es).returns_iff] at read
      exact read.worked

/-! ## Documents -/

/-- The document is a mapping of the entries. -/
def Denotes (d : Yaml.Document) (entries : List (Value × Value)) : Prop :=
  ∃ places, d.part d.top = .dict places ∧
    (places.map fun e => (d.valueAt e.1, d.valueAt e.2)) = entries

/-- A text is a leaf of the document wherever it is met. -/
theorem part_of_valueIn {d : Yaml.Document} {fuel : Nat} {around : List Nat} {place : Nat}
    {t : String} (met : d.valueIn fuel around place = .str t) : d.part place = .leaf (.str t) := by
  cases fuel with
  | zero => cases met
  | succ fuel =>
      rw [Yaml.Document.valueIn] at met
      split at met
      · next v isLeaf => rw [isLeaf, met]
      · cases met
      · split at met <;> cases met
      · split at met <;> cases met

theorem valueAt_of_part {d : Yaml.Document} {place : Nat} {v : Value}
    (isLeaf : d.part place = .leaf v) : d.valueAt place = v := by
  rw [Yaml.Document.valueAt, Yaml.Document.valueIn, isLeaf]

/-- A list of texts is the same when its items are written out by themselves. -/
theorem itemsAt_of_valueAt {d : Yaml.Document} {place : Nat} {names : List String}
    (met : d.valueAt place = .list (names.map .str)) :
    d.itemsAt place = .list (names.map .str) := by
  rw [Yaml.Document.itemsAt]
  split
  · next items isList =>
      rw [Yaml.Document.valueAt, Yaml.Document.valueIn, isList] at met
      simp only [List.contains_nil, Bool.false_eq_true, if_false, Value.list.injEq] at met
      rw [← met]
      refine congrArg Value.list (List.map_congr_left fun item member => ?_)
      cases item with
      | node n =>
          have kept : d.valueIn d.parts.size [place] n ∈ names.map Value.str := by
            rw [← met]
            exact List.mem_map.2 ⟨.node n, member, rfl⟩
          obtain ⟨t, -, isText⟩ := List.mem_map.1 kept
          exact (valueAt_of_part (part_of_valueIn isText.symm)).trans isText
      | pair k v =>
          have kept : Value.tuple [d.valueIn d.parts.size [place] k,
              d.valueIn d.parts.size [place] v] ∈ names.map Value.str := by
            rw [← met]
            exact List.mem_map.2 ⟨.pair k v, member, rfl⟩
          obtain ⟨t, -, isText⟩ := List.mem_map.1 kept
          cases isText
  · exact met

/-- The outline of a value without parts is the value. -/
theorem outlineAt_of_valueAt {d : Yaml.Document} {place : Nat} {v : Value}
    (met : d.valueAt place = v)
    (whole : ∀ vs es, v ≠ .list vs ∧ v ≠ .set vs ∧ v ≠ .dict es) : d.outlineAt place = v := by
  rw [Yaml.Document.valueAt, Yaml.Document.valueIn] at met
  rw [Yaml.Document.outlineAt]
  split at met
  · next isLeaf => rw [isLeaf, ← met]
  · exact absurd met.symm (whole _ []).2.1
  · exact absurd met.symm (whole _ []).1
  · exact absurd met.symm (whole [] _).2.2

/-- A document of settings is read as the dictionary that it denotes. -/
theorem documentEntries_of_denotes {d : Yaml.Document} {places : List (Nat × Nat)}
    (denotes : (places.map fun e => (d.valueAt e.1, d.valueAt e.2)) = s.toEntries) :
    documentEntries d places = s.toEntries := by
  rw [← denotes]
  refine List.map_congr_left fun e member => Prod.ext rfl ?_
  have kept : (d.valueAt e.1, d.valueAt e.2) ∈ s.toEntries := by
    rw [← denotes]
    exact List.mem_map.2 ⟨e, member, rfl⟩
  simp only [toEntries, List.mem_cons, List.not_mem_nil, or_false, Prod.mk.injEq] at kept
  rcases kept with ⟨key, v⟩ | ⟨key, v⟩ | ⟨key, v⟩ | ⟨key, v⟩ | ⟨key, v⟩ | ⟨key, v⟩ <;>
    simp only [key]
  · exact (itemsAt_of_valueAt v).trans v.symm
  · refine (outlineAt_of_valueAt v fun _ _ => ?_).trans v.symm
    cases s.testMode <;> exact ⟨nofun, nofun, nofun⟩
  · exact (outlineAt_of_valueAt v fun _ _ => ⟨nofun, nofun, nofun⟩).trans v.symm
  · exact (outlineAt_of_valueAt v fun _ _ => ⟨nofun, nofun, nofun⟩).trans v.symm
  · exact (outlineAt_of_valueAt v fun _ _ => ⟨nofun, nofun, nofun⟩).trans v.symm
  · rfl

/-- A document brings settings back if it denotes their dictionary. -/
theorem read_of_denotes {path text : String} {d : Yaml.Document} (worked : 1 ≤ s.maxRounds)
    (isDocument : Yaml.read text = .ok d) (denotes : Denotes d s.toEntries) :
    read path text = .ok s := by
  obtain ⟨places, isMapping, entries⟩ := denotes
  rw [read_of_mapping isDocument isMapping, documentEntries_of_denotes entries]
  exact ofValue_toValue_iff.2 worked

/-! ## Changes -/

/-- What a change leaves: the given value, or the one before if none is given. -/
structure Replaces {α : Type} (given : Option α) (before after : α) : Prop where
  changed : ∀ v, given = some v → after = v
  kept : given = none → after = before

theorem replaces_iff {α : Type} {given : Option α} {before after : α} :
    Replaces given before after ↔ after = given.getD before := by
  cases given with
  | none => exact ⟨fun r => r.kept rfl, fun same => ⟨nofun, fun _ => same⟩⟩
  | some v =>
      refine ⟨fun r => r.changed v rfl, fun same => ⟨fun w isGiven => ?_, nofun⟩⟩
      cases isGiven
      exact same

/-- The settings that are given are changed, and no others. -/
structure Overrides.Changes (o : Overrides) (s s' : Settings) : Prop where
  packages : Replaces o.packages s.packages s'.packages
  testMode : Replaces (o.testMode.map some) s.testMode s'.testMode
  mergePolicy : Replaces o.mergePolicy s.mergePolicy s'.mergePolicy
  strictOrder : Replaces o.strictOrder s.strictOrder s'.strictOrder
  maxRounds : Replaces o.maxRounds s.maxRounds s'.maxRounds
  handlerGroup : Replaces o.handlerGroup s.handlerGroup s'.handlerGroup

/-- The settings that a change leads to, before they are checked. -/
def changedBy (s : Settings) (o : Overrides) : Settings where
  packages := o.packages.getD s.packages
  testMode := o.testMode <|> s.testMode
  mergePolicy := o.mergePolicy.getD s.mergePolicy
  strictOrder := o.strictOrder.getD s.strictOrder
  maxRounds := o.maxRounds.getD s.maxRounds
  handlerGroup := o.handlerGroup.getD s.handlerGroup

theorem withOverrides_eq (s : Settings) (o : Overrides) :
    s.withOverrides o = (s.changedBy o).checked := rfl

theorem changes_iff : o.Changes s s' ↔ s' = s.changedBy o := by
  have mode : (o.testMode <|> s.testMode) = (o.testMode.map some).getD s.testMode := by
    cases o.testMode <;> rfl
  constructor
  · rintro ⟨p, t, m, so, r, g⟩
    obtain ⟨p', t', m', so', r', g'⟩ := s'
    simp only [replaces_iff] at p t m so r g
    subst p t m so r g
    rw [changedBy, mode]
  · rintro rfl
    exact ⟨replaces_iff.2 rfl, replaces_iff.2 mode, replaces_iff.2 rfl, replaces_iff.2 rfl,
      replaces_iff.2 rfl, replaces_iff.2 rfl⟩

/-- **One step**: a change leads to settings exactly when these have a round and are changed where,
and only where, something is given. -/
theorem withOverrides_eq_ok : s.withOverrides o = .ok s' ↔ o.Changes s s' ∧ 1 ≤ s'.maxRounds := by
  rw [withOverrides_eq, changes_iff]
  by_cases worked : 1 ≤ (s.changedBy o).maxRounds
  · rw [checked_of_worked worked, Except.ok.injEq]
    exact ⟨fun same => ⟨same.symm, same ▸ worked⟩, fun both => both.1.symm⟩
  · obtain ⟨f, refused, -⟩ := checked_fault worked
    rw [refused]
    refine iff_of_false nofun ?_
    rintro ⟨rfl, worked'⟩
    exact worked worked'

/-- A change leaves a round if it gives none away. -/
theorem withOverrides_returns_iff (worked : 1 ≤ s.maxRounds) :
    (∃ s', s.withOverrides o = .ok s') ↔ ∀ n, o.maxRounds = some n → 1 ≤ n := by
  simp only [withOverrides_eq_ok, changes_iff, exists_eq_left, changedBy]
  cases o.maxRounds with
  | none => exact iff_of_true worked nofun
  | some n => exact ⟨fun given m same => by cases same; exact given, fun all => all n rfl⟩

/-- Changes that are made one after the other. -/
inductive Overridden : Settings → List Overrides → Settings → Prop
  | unchanged (s : Settings) : Overridden s [] s
  | change {s s₁ s₂ : Settings} {o : Overrides} {os : List Overrides} : o.Changes s s₁ →
      1 ≤ s₁.maxRounds → Overridden s₁ os s₂ → Overridden s (o :: os) s₂

def overrideAll (s : Settings) (os : List Overrides) : Except Fault Settings :=
  os.foldlM withOverrides s

theorem overrideAll_cons (s : Settings) (o : Overrides) (os : List Overrides) :
    s.overrideAll (o :: os) = (s.withOverrides o).bind fun s => s.overrideAll os :=
  List.foldlM_cons

/-- **A run** of changes, from the step. -/
theorem overrideAll_eq_ok : s.overrideAll os = .ok s' ↔ Overridden s os s' := by
  induction os generalizing s with
  | nil =>
      refine ⟨fun returned => ?_, fun run => ?_⟩
      · cases returned
        exact .unchanged _
      · cases run
        rfl
  | cons o os ih =>
      rw [overrideAll_cons]
      refine ⟨fun returned => ?_, fun run => ?_⟩
      · cases first : s.withOverrides o with
        | error f =>
            rw [first] at returned
            cases returned
        | ok s₁ =>
            rw [first] at returned
            obtain ⟨changes, worked⟩ := withOverrides_eq_ok.1 first
            exact .change changes worked (ih.1 returned)
      · cases run with
        | change changes worked rest =>
            rw [withOverrides_eq_ok.2 ⟨changes, worked⟩]
            exact ih.2 rest

/-- What changes lead to has a round. -/
theorem Overridden.worked (run : Overridden s os s') (worked : 1 ≤ s.maxRounds) :
    1 ≤ s'.maxRounds := by
  induction run with
  | unchanged s => exact worked
  | change _ first _ ih => exact ih first

/-- Changes are all made exactly when none of them gives the rounds away. -/
theorem overrideAll_returns_iff (worked : 1 ≤ s.maxRounds) :
    (∃ s', s.overrideAll os = .ok s') ↔ ∀ o ∈ os, ∀ n, o.maxRounds = some n → 1 ≤ n := by
  induction os generalizing s with
  | nil => exact iff_of_true ⟨_, rfl⟩ fun o member => absurd member List.not_mem_nil
  | cons o os ih =>
      rw [List.forall_mem_cons, ← withOverrides_returns_iff worked, overrideAll_cons]
      cases first : s.withOverrides o with
      | error f => exact iff_of_false nofun nofun
      | ok s₁ =>
          rw [← ih (withOverrides_eq_ok.1 first).2]
          exact ⟨fun returned => ⟨⟨s₁, rfl⟩, returned⟩, fun both => both.2⟩

/-! ## Changes by name -/

/-- A change as values by the names of the settings; null where nothing is given. -/
def Overrides.byName (o : Overrides) : List (String × Value) :=
  [("packages", (o.packages.map fun ps => Value.tuple (ps.map .str)).getD .null),
   ("test_mode", (o.testMode.map Value.bool).getD .null),
   ("merge_policy", (o.mergePolicy.map Value.policy).getD .null),
   ("strict_order", (o.strictOrder.map Value.bool).getD .null),
   ("max_rounds", (o.maxRounds.map Value.int).getD .null),
   ("handler_group", (o.handlerGroup.map Value.str).getD .null)]

namespace Draft

/-- The value is not null. -/
def isGiven (e : String × Value) : Bool :=
  match e.2 with
  | .null => false
  | _ => true

/-- Puts a value in the place of a setting, unless it is null. -/
def setGiven (d : Draft) (e : String × Value) : Except Fault Draft :=
  if isGiven e then d.set e.1 e.2 else .ok d

theorem foldlM_setGiven (changes : List (String × Value)) (d : Draft) :
    (changes.filter isGiven).foldlM (fun d e => d.set e.1 e.2) d = changes.foldlM setGiven d := by
  induction changes generalizing d with
  | nil => rfl
  | cons e changes ih =>
      rw [List.foldlM_cons, setGiven, List.filter_cons]
      split
      · rw [List.foldlM_cons]
        exact congrArg _ (funext ih)
      · exact ih d

/-- Known names of proper values are set one after the other, and the rounds are compared. -/
theorem changed_eq {changes : List (String × Value)} (d : Draft)
    (other : changes.lookup "self" = none) :
    d.changed changes = (changes.foldlM setGiven d).bind checked := by
  rw [← foldlM_setGiven, changed, other]
  rfl

/-- Comparing the rounds of a draft with one is comparing whole numbers. -/
theorem checked_ofSettings (s : Settings) : (ofSettings s).checked = s.checked.map ofSettings := by
  have compared : Value.lt? (ofSettings s).maxRounds (.int 1) = .ok (decide (s.maxRounds < 1)) := by
    show Value.lt? (.int s.maxRounds) (.int 1) = _
    unfold Value.lt?
    show Except.ok (decide (s.maxRounds * 1 < 1 * 1)) = _
    rw [Int.mul_one, Int.mul_one]
  rw [checked, Settings.checked, compared]
  by_cases idle : s.maxRounds < 1
  · rw [if_pos idle, decide_eq_true idle]
    rfl
  · rw [if_neg idle, decide_eq_false idle]
    rfl

/-- Every setting that is given by name takes the place of the one before. -/
theorem foldlM_byName (s : Settings) (o : Overrides) :
    o.byName.foldlM setGiven (ofSettings s) = .ok (ofSettings (s.changedBy o)) := by
  have packages (s : Settings) : setGiven (ofSettings s)
      ("packages", (o.packages.map fun ps => Value.tuple (ps.map .str)).getD .null) =
      .ok (ofSettings { s with packages := o.packages.getD s.packages }) := by
    cases o.packages <;> rfl
  have testMode (s : Settings) : setGiven (ofSettings s)
      ("test_mode", (o.testMode.map Value.bool).getD .null) =
      .ok (ofSettings { s with testMode := o.testMode <|> s.testMode }) := by
    cases o.testMode <;> rfl
  have mergePolicy (s : Settings) : setGiven (ofSettings s)
      ("merge_policy", (o.mergePolicy.map Value.policy).getD .null) =
      .ok (ofSettings { s with mergePolicy := o.mergePolicy.getD s.mergePolicy }) := by
    cases o.mergePolicy <;> rfl
  have strictOrder (s : Settings) : setGiven (ofSettings s)
      ("strict_order", (o.strictOrder.map Value.bool).getD .null) =
      .ok (ofSettings { s with strictOrder := o.strictOrder.getD s.strictOrder }) := by
    cases o.strictOrder <;> rfl
  have maxRounds (s : Settings) : setGiven (ofSettings s)
      ("max_rounds", (o.maxRounds.map Value.int).getD .null) =
      .ok (ofSettings { s with maxRounds := o.maxRounds.getD s.maxRounds }) := by
    cases o.maxRounds <;> rfl
  have handlerGroup (s : Settings) : setGiven (ofSettings s)
      ("handler_group", (o.handlerGroup.map Value.str).getD .null) =
      .ok (ofSettings { s with handlerGroup := o.handlerGroup.getD s.handlerGroup }) := by
    cases o.handlerGroup <;> rfl
  simp only [Overrides.byName, List.foldlM_cons, List.foldlM_nil, packages, testMode, mergePolicy,
    strictOrder, maxRounds, handlerGroup, bind, Except.bind]
  rfl

/-- Changes by name, of the proper types, are the changes of the settings. -/
theorem changed_byName (s : Settings) (o : Overrides) :
    (ofSettings s).changed o.byName = (s.withOverrides o).map ofSettings := by
  rw [changed_eq _ rfl, foldlM_byName, withOverrides_eq, ← checked_ofSettings]
  rfl

theorem toValue_ofSettings (s : Settings) : (ofSettings s).toValue = .ok s.toValue := by
  obtain ⟨p, t, m, so, r, g⟩ := s
  cases t <;> rfl

/-- Changes by name that are made one after the other. -/
theorem foldlM_changed_byName (s : Settings) (os : List Overrides) :
    (os.map Overrides.byName).foldlM changed (ofSettings s) =
      (s.overrideAll os).map ofSettings := by
  induction os generalizing s with
  | nil => rfl
  | cons o os ih =>
      rw [List.map_cons, List.foldlM_cons, changed_byName, overrideAll_cons]
      cases s.withOverrides o with
      | error f => rfl
      | ok s₁ => exact ih s₁

end Draft

/-! ## Settings and what is written of them -/

/-- Settings that were changed, and that come back when they are written and read again. -/
structure Returns (s : Settings) (os : List Overrides) (s' : Settings) : Prop where
  overridden : Overridden s os s'
  byName : (os.map Overrides.byName).foldlM Draft.changed (.ofSettings s) = .ok (.ofSettings s')
  dictionary : ofValue s'.toValue = .ok s'
  draft : (Draft.ofSettings s').toValue = .ok s'.toValue
  document : ∀ path d, Yaml.read s'.write = .ok d → Denotes d s'.toEntries →
    read path s'.write = .ok s'

theorem Overridden.returns (run : Overridden s os s') (worked : 1 ≤ s.maxRounds) :
    Returns s os s' where
  overridden := run
  byName := by
    rw [Draft.foldlM_changed_byName, overrideAll_eq_ok.2 run]
    rfl
  dictionary := ofValue_toValue_iff.2 (run.worked worked)
  draft := Draft.toValue_ofSettings s'
  document := fun _ _ => read_of_denotes (run.worked worked)

/-- **Settings that are written come back.**  Settings that were read from any value can be changed
any number of times: every change that leaves a round is made, it changes what is given and keeps
the rest, and it is the same by the names of the settings.  What it leads to comes back from its
dictionary, and from its document if reading that gives the dictionary. -/
theorem settings_return {v : Value} (isRead : ofValue v = .ok s) (os : List Overrides) :
    ((∃ s', s.overrideAll os = .ok s') ↔ ∀ o ∈ os, ∀ n, o.maxRounds = some n → 1 ≤ n) ∧
      ∀ s', s.overrideAll os = .ok s' → Returns s os s' := by
  have worked := worked_of_ofValue isRead
  exact ⟨overrideAll_returns_iff worked, fun s' run => (overrideAll_eq_ok.1 run).returns worked⟩

namespace Sample

def short : Value := .dict [(.str "packages", .str "shop"), (.str "max_rounds", .str " 1_0")]

def plain : Settings := { packages := ["shop"], maxRounds := 10 }

def changed : Settings :=
  { packages := ["shop", "on"], testMode := some true, maxRounds := 3, mergePolicy := .firstWins }

def changes : List Overrides :=
  [{ packages := some ["shop", "on"], maxRounds := some 3 },
   { testMode := some true, mergePolicy := some .firstWins }]

/-- The entries are those of the changed settings. -/
def isChanged (d : Yaml.Document) (places : List (Nat × Nat)) : Bool :=
  match places.map fun e => (d.valueAt e.1, d.valueAt e.2) with
  | [(.str "packages", .list [.str "shop", .str "on"]), (.str "test_mode", .bool true),
     (.str "merge_policy", .str "first_wins"), (.str "strict_order", .bool false),
     (.str "max_rounds", .int 3), (.str "handler_group", .str "markgen.handlers")] => true
  | _ => false

theorem settings_return_changed :
    ofValue short = .ok plain ∧ plain.overrideAll changes = .ok changed ∧
      Returns plain changes changed ∧
      (∃ d, Yaml.read changed.write = .ok d ∧ Denotes d changed.toEntries) ∧
      read "c.yaml" changed.write = .ok changed := by
  have isRead : ofValue short = .ok plain := by
    have returned : (ofValue short).toOption = some plain := by decide +kernel
    cases reading : ofValue short with
    | error f =>
        rw [reading] at returned
        cases returned
    | ok s =>
        rw [reading] at returned
        exact congrArg _ (Option.some.inj returned)
  have run : plain.overrideAll changes = .ok changed := by rfl
  have returns := (settings_return isRead changes).2 changed run
  have passed : Yaml.isMappingWith isChanged changed.write = true := by decide +kernel
  obtain ⟨d, places, isDocument, isMapping, shaped⟩ := Yaml.mapping_of_isMappingWith passed
  have denotes : Denotes d changed.toEntries := by
    refine ⟨places, isMapping, ?_⟩
    unfold isChanged at shaped
    split at shaped
    · next entries => exact entries.trans rfl
    · cases shaped
  exact ⟨isRead, run, returns, ⟨d, isDocument, denotes⟩, returns.document _ d isDocument denotes⟩

end Sample

end Marking.Settings
