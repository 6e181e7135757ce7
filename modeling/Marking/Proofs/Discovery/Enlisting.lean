/-
# Marking.Proofs.Discovery.Enlisting -- what discovery adds to a station

Discovery passes a state through many small steps, and on the way a declaration may be skipped,
recorded as faulty or enlisted.  Only the last leaves something at the station: `Enlists` says
that a stretch of discovery appended the delegates `ds` to the queue, numbered on from the
number it began with, and changed nothing else there.  The units found are those of the same
delegates, each by itself (`Delegate.unit`).

A scanner may answer all questions about a scope from one list (`Serves`); then the declarations
of the delegates are known as well: for every kind, those that `isChosen` picks, in the order of
the scanner.
-/
import Mathlib.Data.List.Range
import Marking.Discovery
import Marking.Proofs.Marker.Targets

set_option autoImplicit false

namespace Marking

variable {σ : Type}

def Delegate.unit (x : Delegate σ) : WorkUnit (Delegate σ) :=
  { key := x.unitKey, items := [x], needs := x.needs.getD [] }

/-- The key is that of the owner of the declaration, and the owner can be a known type. -/
structure Delegate.Owned (x : Delegate σ) : Prop where
  ownerKey : x.declaration.ownerKey = .ok x.key
  known : ∃ k, UnitKey.ofValue x.declaration.owner = .ok k

theorem World.addType_ok {w w' : World σ} {v : Value} (ok : w.addType v = (.ok (), w')) :
    ∃ k, UnitKey.ofValue v = .ok k := by
  unfold World.addType TypeRegistry.addType at ok
  cases key : UnitKey.ofValue v with
  | ok k => exact ⟨k, rfl⟩
  | error f =>
      rw [key] at ok
      cases ok

theorem Entry.queue_addAll {δ : Type} (e : Entry δ) (ds : List δ) :
    (e.addAll ds).queue = e.queue ++ ds := by
  induction ds generalizing e with
  | nil => exact (List.append_nil _).symm
  | cons d ds ih =>
      show ((e.add d).addAll ds).queue = e.queue ++ d :: ds
      rw [ih, add, List.append_assoc, List.singleton_append]

theorem Entry.marker_addAll {δ : Type} (e : Entry δ) (ds : List δ) :
    (e.addAll ds).marker = e.marker := by
  induction ds generalizing e with
  | nil => rfl
  | cons d ds ih => exact ih (e.add d)

/-- The entry has done nothing but queue work. -/
def Entry.IsNew {δ : Type} (e : Entry δ) : Prop := e = { marker := e.marker, queue := e.queue }

theorem Entry.IsNew.addAll {δ : Type} {e : Entry δ} (isNew : e.IsNew) (ds : List δ) :
    (e.addAll ds).IsNew := by
  induction ds generalizing e with
  | nil => exact isNew
  | cons d ds ih =>
      refine ih (e := e.add d) ?_
      rw [IsNew] at isNew
      rw [isNew]
      rfl

theorem Entry.addAll_append {δ : Type} (e : Entry δ) (ds xs : List δ) :
    e.addAll (ds ++ xs) = (e.addAll ds).addAll xs :=
  List.foldl_append

/-! ## Scanners that serve a list -/

/-- The scanner answers every question about the scope from the list, however many it is asked. -/
def Scanner.Serves (s : Scanner) (packages : List String) (decls : List Declaration) : Prop :=
  ∃ Keeps : s.Memory → Prop, Keeps s.memory ∧ ∀ memory, Keeps memory → ∀ t kind,
    (s.ask memory t kind packages).1 = Declaration.select kind t packages decls ∧
      Keeps (s.ask memory t kind packages).2.1

namespace Scanner

variable {packages : List String} {decls : List Declaration}

theorem Serves.query {s s' : Scanner} {t : MarkerType} {kind : ElementKind}
    {found : Except Fault (List Declaration)} {notes : Journal} (serves : s.Serves packages decls)
    (asked : s.query t kind packages = (found, s', notes)) :
    found = Declaration.select kind t packages decls ∧ s'.Serves packages decls := by
  obtain ⟨Keeps, now, later⟩ := serves
  obtain ⟨answer, kept⟩ := later s.memory now t kind
  cases asked
  exact ⟨answer, Keeps, kept, later⟩

theorem query_fixed (t : MarkerType) (kind : ElementKind) :
    (fixed decls).query t kind packages =
      (Declaration.select kind t packages decls, fixed decls, []) := rfl

theorem serves_fixed : (fixed decls).Serves packages decls := by
  refine ⟨(· = decls), rfl, ?_⟩
  intro (memory : List Declaration) (same : memory = decls) t kind
  rw [same]
  exact ⟨rfl, rfl⟩

theorem serves_deferred {drafts : List Draft} (made : Draft.makeAll drafts = .ok decls) :
    (deferred drafts).Serves packages decls := by
  refine ⟨(· = drafts), rfl, ?_⟩
  intro (memory : List Draft) (same : memory = drafts) t kind
  rw [same]
  refine ⟨?_, rfl⟩
  show (Draft.makeAll drafts).bind _ = _
  rw [made]
  rfl

/-- A scan that remembers what the modules hold for the scope answers from that. -/
theorem declarations_of_lookup {scan : ModuleScan} (known : scan.found.lookup packages = some decls) :
    scan.declarations packages = (.ok decls, scan, []) := by
  rw [ModuleScan.declarations, known]

/-- A scan of modules remembers what it collected for the scope. -/
theorem lookup_of_declarations {scan scan' : ModuleScan} {notes : Journal}
    (collected : scan.declarations packages = (.ok decls, scan', notes)) :
    scan'.found.lookup packages = some decls := by
  unfold ModuleScan.declarations at collected
  cases known : scan.found.lookup packages with
  | some ds =>
      rw [known] at collected
      cases collected
      exact known
  | none =>
      rw [known] at collected
      cases scanned : scan.collect packages with
      | mk result rest =>
          simp only [scanned] at collected
          cases result with
          | error f => cases collected
          | ok ds =>
              cases collected
              simp [List.lookup_append, known]

theorem serves_modules {scan scan' : ModuleScan} {notes : Journal}
    (collected : scan.declarations packages = (.ok decls, scan', notes)) :
    (modules scan).Serves packages decls := by
  have again := declarations_of_lookup (lookup_of_declarations collected)
  refine ⟨fun memory => memory = scan ∨ memory = scan', .inl rfl, ?_⟩
  intro (memory : ModuleScan) (which : memory = scan ∨ memory = scan') t kind
  show ((memory.declarations packages).1.bind _) = _ ∧
    ((memory.declarations packages).2.1 = scan ∨ (memory.declarations packages).2.1 = scan')
  rcases which with rfl | rfl
  · rw [collected]
    exact ⟨rfl, .inr rfl⟩
  · rw [again]
    exact ⟨rfl, .inr rfl⟩

end Scanner

/-! ## Questions about one kind -/

namespace Declaration

variable {packages : List String} {x : Declaration} {kind : ElementKind} {t : MarkerType}

/-- The scope is asked about the declaration when the kind and the marker type are looked up. -/
def isAsked (kind : ElementKind) (t : MarkerType) (x : Declaration) : Bool :=
  x.kind = kind && x.hasMarker t

theorem select_cons_asked (decls : List Declaration) (asked : isAsked kind t x = true) :
    select kind t packages (x :: decls) =
      match x.isInScope packages with
      | .error f => .error f
      | .ok true => (select kind t packages decls).map (x :: ·)
      | .ok false => select kind t packages decls := if_pos asked

theorem select_cons_passed (decls : List Declaration) (passed : ¬ isAsked kind t x = true) :
    select kind t packages (x :: decls) = select kind t packages decls := if_neg passed

end Declaration

namespace Discovery

/-- Between two states of discovery at a station the delegates `ds` were enlisted. -/
structure Enlists (position : Nat) (d : Discovery) (s : Station σ) (ds : List (Delegate σ))
    (d' : Discovery) (s' : Station σ) : Prop where
  station : s' = { s with entry := s.entry.addAll ds }
  made : d'.made = d.made + ds.length
  serials : ds.map Delegate.serial = List.range' d.made ds.length
  entries : ∀ x ∈ ds, x.entry = position
  owned : ∀ x ∈ ds, x.Owned
  context : d'.context = d.context

variable {position : Nat} {d mid d' : Discovery} {s s' t : Station σ} {w w' : World σ}
  {ds xs : List (Delegate σ)}

theorem Enlists.nothing (made : d'.made = d.made) (context : d'.context = d.context) :
    Enlists position d s [] d' s :=
  ⟨rfl, made, rfl, fun _ member => (nomatch member), fun _ member => (nomatch member), context⟩

theorem Enlists.trans (first : Enlists position d s ds mid t)
    (second : Enlists position mid t xs d' s') : Enlists position d s (ds ++ xs) d' s' where
  station := by
    rw [second.station, first.station, Entry.addAll_append]
  made := by
    rw [second.made, first.made, List.length_append, Nat.add_assoc]
  serials := by
    rw [List.map_append, first.serials, second.serials, first.made, List.length_append,
      List.range'_append_1]
  entries x member := by
    rcases List.mem_append.1 member with early | late
    · exact first.entries x early
    · exact second.entries x late
  owned x member := (List.mem_append.1 member).elim (first.owned x) (second.owned x)
  context := second.context.trans first.context

theorem Enlists.marker (h : Enlists position d s ds d' s') : s'.entry.marker = s.entry.marker := by
  rw [h.station]
  exact Entry.marker_addAll _ _

/-! ## One declaration -/

/-- The dependency check settles the key and the needs of a delegate and nothing else. -/
theorem required_spec {ctx : Context} {x y : Delegate σ} {ks : List UnitKey} (open' : x.needs = none)
    (ok : x.required ctx w = (.ok ks, y, w')) :
    ∃ c, y = { x with control := c, needs := some ks } := by
  unfold Delegate.required at ok
  rw [open'] at ok
  cases checked : x.handler.check ctx x.view x.control w with
  | mk answer rest =>
      obtain ⟨control, next⟩ := rest
      simp only [checked] at ok
      cases read : answer.bind Value.dependencies with
      | error f =>
          simp only [read] at ok
          cases ok
      | ok ks' =>
          simp only [read] at ok
          cases ok
          exact ⟨control, rfl⟩

theorem enlist_spec {x : Declaration} {m : Marker} {u : WorkUnit (Delegate σ)}
    (ok : d.enlist position s x m w = (.ok u, d', s', w')) :
    ∃ y : Delegate σ, u = y.unit ∧ y.declaration = x ∧ Enlists position d s [y] d' s' ∧
      d'.scanner = d.scanner := by
  unfold enlist at ok
  cases owner : x.ownerKey with
  | error f =>
      rw [owner] at ok
      cases ok
  | ok key =>
      cases added : w.addType x.owner with
      | mk result known =>
          simp only [owner, added] at ok
          cases result with
          | error f => cases ok
          | ok _ =>
              have hasKey := World.addType_ok added
              cases asked : Delegate.required d.context
                  { serial := d.made, entry := position, markerName := s.entry.name
                    handler := s.handler, declaration := x, marker := m, key
                    control := .ofKey key } known with
              | mk needs rest =>
                  obtain ⟨y, next⟩ := rest
                  simp only [asked] at ok
                  cases needs with
                  | error f => cases ok
                  | ok ks =>
                      obtain ⟨c, rfl⟩ := required_spec rfl asked
                      cases ok
                      refine ⟨_, rfl, rfl, ⟨rfl, rfl, rfl, by simp, fun y member => ?_, rfl⟩, rfl⟩
                      rw [List.mem_singleton.1 member]
                      exact ⟨owner, hasKey⟩

/-- The declaration is for every run, or the run is for tests. -/
def isAdmitted (ctx : Context) (x : Declaration) : Bool :=
  match x.isTestOnly with
  | .ok testOnly => !testOnly || ctx.testMode
  | .error _ => false

/-- The declaration becomes a delegate at a station for the marker type. -/
def isTaken (ctx : Context) (t : MarkerType) (x : Declaration) : Bool :=
  x.hasMarker t && isAdmitted ctx x

theorem build_spec {x : Declaration} {unit : Option (WorkUnit (Delegate σ))}
    (ok : d.build position s x w = (.ok unit, d', s', w')) :
    ∃ ds : List (Delegate σ), unit.toList = ds.map Delegate.unit ∧
      ds.map Delegate.declaration = [x].filter (isTaken d.context s.entry.marker) ∧
      Enlists position d s ds d' s' ∧ d'.scanner = d.scanner := by
  unfold build at ok
  cases marked : x.marker? s.entry.marker with
  | none =>
      have skipped : isTaken d.context s.entry.marker x = false := by
        simp [isTaken, Declaration.hasMarker, marked]
      rw [marked] at ok
      cases named : x.qualifiedName with
      | error f =>
          simp only [named] at ok
          cases ok
      | ok subject =>
          simp only [named] at ok
          cases ok
          exact ⟨[], rfl, by simp [skipped], .nothing rfl rfl, rfl⟩
  | some m =>
      rw [marked] at ok
      dsimp only at ok
      cases test : x.isTestOnly with
      | error f =>
          rw [test] at ok
          cases ok
      | ok testOnly =>
          have taken : isTaken d.context s.entry.marker x = (!testOnly || d.context.testMode) := by
            simp [isTaken, Declaration.hasMarker, marked, isAdmitted, test]
          rw [test] at ok
          dsimp only at ok
          by_cases leave : (testOnly && !d.context.testMode) = true
          · have skipped : isTaken d.context s.entry.marker x = false := by
              rw [taken]
              simpa using leave
            rw [if_pos leave] at ok
            refine ⟨[], ?_, by simp [skipped], ?_⟩
            · cases text : x.text <;> rw [text] at ok <;> cases ok <;> rfl
            · cases text : x.text <;> rw [text] at ok <;> cases ok <;>
                exact ⟨.nothing rfl rfl, rfl⟩
          · have kept : isTaken d.context s.entry.marker x = true := by
              rw [taken]
              cases testOnly <;> simp_all
            rw [if_neg leave] at ok
            cases listed : d.enlist position s x m w with
            | mk result rest =>
                obtain ⟨mid, t, next⟩ := rest
                simp only [listed] at ok
                cases result with
                | error f => cases ok
                | ok u =>
                    cases ok
                    obtain ⟨y, rfl, rfl, enlists, scanner⟩ := enlist_spec listed
                    exact ⟨[y], rfl, by simp [kept], enlists, scanner⟩

/-! ## Many declarations -/

theorem buildAll_cons_ok {x : Declaration} {decls : List Declaration}
    {units : List (WorkUnit (Delegate σ))}
    (ok : buildAll position (x :: decls) d s w = (.ok units, d', s', w')) :
    ∃ unit mid t next more, d.build position s x w = (.ok unit, mid, t, next) ∧
      buildAll position decls mid t next = (.ok more, d', s', w') ∧ units = unit.toList ++ more := by
  rw [buildAll] at ok
  cases built : d.build position s x w with
  | mk result rest =>
      obtain ⟨mid, t, next⟩ := rest
      rw [built] at ok
      cases result with
      | error f => cases ok
      | ok unit =>
          cases others : buildAll position decls mid t next with
          | mk result rest =>
              simp only [others] at ok
              cases result with
              | error f => cases ok
              | ok more =>
                  cases ok
                  exact ⟨unit, mid, t, next, more, rfl, others, rfl⟩

theorem buildAll_spec {decls : List Declaration} {units : List (WorkUnit (Delegate σ))}
    (ok : buildAll position decls d s w = (.ok units, d', s', w')) :
    ∃ ds : List (Delegate σ), units = ds.map Delegate.unit ∧
      ds.map Delegate.declaration = decls.filter (isTaken d.context s.entry.marker) ∧
      Enlists position d s ds d' s' ∧ d'.scanner = d.scanner := by
  induction decls generalizing d s w units d' s' w' with
  | nil =>
      cases ok
      exact ⟨[], rfl, rfl, .nothing rfl rfl, rfl⟩
  | cons x decls ih =>
      obtain ⟨unit, mid, t, next, more, built, others, rfl⟩ := buildAll_cons_ok ok
      obtain ⟨ds, found, taken, first, scanner⟩ := build_spec built
      obtain ⟨xs, foundRest, takenRest, second, scannerRest⟩ := ih others
      refine ⟨ds ++ xs, ?_, ?_, first.trans second, scannerRest.trans scanner⟩
      · rw [List.map_append, ← found, foundRest]
      · rw [List.map_append, taken, takenRest, first.context, first.marker, ← List.filter_append,
          List.singleton_append]

/-! ## Many kinds -/

def isIn (packages : List String) (x : Declaration) : Bool :=
  match x.isInScope packages with
  | .ok inside => inside
  | .error _ => false

/-- The declaration answers the question for the kind and the marker type in the scope. -/
def isSelected (kind : ElementKind) (t : MarkerType) (packages : List String) (x : Declaration) :
    Bool :=
  (x.kind = kind && x.hasMarker t) && isIn packages x

/-- The declaration is found for the kind and becomes a delegate. -/
def isChosen (ctx : Context) (t : MarkerType) (kind : ElementKind) (x : Declaration) : Bool :=
  isSelected kind t ctx.packages x && isTaken ctx t x

theorem select_spec {kind : ElementKind} {t : MarkerType} {packages : List String}
    {decls found : List Declaration} (ok : Declaration.select kind t packages decls = .ok found) :
    found = decls.filter (isSelected kind t packages) := by
  induction decls generalizing found with
  | nil =>
      cases ok
      rfl
  | cons x decls ih =>
      rw [Declaration.select] at ok
      by_cases asked : (decide (x.kind = kind) && x.hasMarker t) = true
      · rw [if_pos asked] at ok
        cases scope : x.isInScope packages with
        | error f =>
            rw [scope] at ok
            cases ok
        | ok inside =>
            rw [scope] at ok
            have selected : isSelected kind t packages x = inside := by
              rw [isSelected, asked, isIn, scope, Bool.true_and]
            cases inside with
            | false => rw [List.filter_cons, selected, if_neg Bool.false_ne_true, ih ok]
            | true =>
                cases others : Declaration.select kind t packages decls with
                | error f =>
                    rw [others] at ok
                    cases ok
                | ok rest =>
                    rw [others] at ok
                    cases ok
                    rw [List.filter_cons, selected, if_pos rfl, ih others]
      · rw [if_neg asked] at ok
        have passed : isSelected kind t packages x = false := by
          rw [isSelected, Bool.eq_false_iff.2 asked, Bool.false_and]
        rw [List.filter_cons, passed, if_neg Bool.false_ne_true, ih ok]

/-- To ask about a scope never ends in a structural fault. -/
theorem isInScope_error {x : Declaration} {packages : List String} {f : Fault}
    (failed : x.isInScope packages = .error f) : ∀ g, f ≠ .structural g := by
  rintro g rfl
  unfold Declaration.isInScope at failed
  cases package : x.package with
  | ok module =>
      rw [package] at failed
      cases module with
      | some m => cases failed
      | none =>
          simp only [Except.bind] at failed
          split at failed <;> cases failed
  | error f =>
      rw [package] at failed
      cases failed
      unfold Declaration.package at package
      split at package
      · cases package
      · split at package <;> cases package

theorem select_error {kind : ElementKind} {t : MarkerType} {packages : List String}
    {decls : List Declaration} {f : Fault}
    (failed : Declaration.select kind t packages decls = .error f) : ∀ g, f ≠ .structural g := by
  induction decls with
  | nil => cases failed
  | cons x decls ih =>
      rw [Declaration.select] at failed
      by_cases asked : (decide (x.kind = kind) && x.hasMarker t) = true
      · rw [if_pos asked] at failed
        cases scope : x.isInScope packages with
        | error f' =>
            rw [scope] at failed
            cases failed
            exact isInScope_error scope
        | ok inside =>
            rw [scope] at failed
            cases inside with
            | false => exact ih failed
            | true =>
                cases others : Declaration.select kind t packages decls with
                | error f' =>
                    rw [others] at failed
                    cases failed
                    exact ih others
                | ok rest =>
                    rw [others] at failed
                    cases failed
      · rw [if_neg asked] at failed
        exact ih failed

/-- The declarations that become delegates, kind by kind. -/
def chosen (ctx : Context) (t : MarkerType) (kinds : List ElementKind) (decls : List Declaration) :
    List Declaration :=
  kinds.flatMap fun kind => decls.filter (isChosen ctx t kind)

theorem chosen_cons (ctx : Context) (t : MarkerType) (kind : ElementKind) (kinds : List ElementKind)
    (decls : List Declaration) :
    chosen ctx t (kind :: kinds) decls =
      decls.filter (isChosen ctx t kind) ++ chosen ctx t kinds decls :=
  List.flatMap_cons

theorem filter_isTaken_select (ctx : Context) (t : MarkerType) (kind : ElementKind)
    (decls : List Declaration) :
    (decls.filter (isSelected kind t ctx.packages)).filter (isTaken ctx t) =
      decls.filter (isChosen ctx t kind) := by
  rw [List.filter_filter]
  refine List.filter_congr fun x _ => ?_
  rw [isChosen, Bool.and_comm]

/-- A question that fails on a structural fault is passed by; otherwise its answer is built. -/
theorem buildKinds_cons_ok {kind : ElementKind} {kinds : List ElementKind}
    {units : List (WorkUnit (Delegate σ))}
    (ok : buildKinds position (kind :: kinds) d s w = (.ok units, d', s', w')) :
    ∃ found scanner notes,
      d.scanner.query s.entry.marker kind d.context.packages = (found, scanner, notes) ∧
      ((∃ f mid next, found = .error (.structural f) ∧ mid.made = d.made ∧ mid.context = d.context ∧
          buildKinds position kinds mid s next = (.ok units, d', s', w')) ∨
        ∃ listed first mid t next more, found = .ok listed ∧
          buildAll position listed { d with scanner } s (w.note notes) = (.ok first, mid, t, next) ∧
          buildKinds position kinds mid t next = (.ok more, d', s', w') ∧ units = first ++ more) := by
  rw [buildKinds] at ok
  cases asked : d.scanner.query s.entry.marker kind d.context.packages with
  | mk found rest =>
      obtain ⟨scanner, notes⟩ := rest
      refine ⟨found, scanner, notes, rfl, ?_⟩
      simp only [asked] at ok
      cases found with
      | error f =>
          cases f with
          | structural g =>
              let recorded := ({ d with scanner } : Discovery).record g (w.note notes)
              exact Or.inl ⟨g, recorded.1, recorded.2, rfl, rfl, rfl, ok⟩
          | _ => cases ok
      | ok listed =>
          refine Or.inr ?_
          dsimp only at ok
          cases built : buildAll position listed { d with scanner } s (w.note notes) with
          | mk result rest =>
              obtain ⟨mid, t, next⟩ := rest
              simp only [built] at ok
              cases result with
              | error f => cases ok
              | ok first =>
                  cases others : buildKinds position kinds mid t next with
                  | mk result rest =>
                      simp only [others] at ok
                      cases result with
                      | error f => cases ok
                      | ok more =>
                          cases ok
                          exact ⟨listed, first, mid, t, next, more, rfl, built, others, rfl⟩

theorem buildKinds_spec {kinds : List ElementKind} {units : List (WorkUnit (Delegate σ))}
    (ok : buildKinds position kinds d s w = (.ok units, d', s', w')) :
    ∃ ds : List (Delegate σ), units = ds.map Delegate.unit ∧ Enlists position d s ds d' s' ∧
      ∀ decls, d.scanner.Serves d.context.packages decls →
        d'.scanner.Serves d.context.packages decls ∧ ds.map Delegate.declaration =
          chosen d.context s.entry.marker kinds decls := by
  induction kinds generalizing d s w units d' s' w' with
  | nil =>
      cases ok
      exact ⟨[], rfl, .nothing rfl rfl, fun decls serves => ⟨serves, rfl⟩⟩
  | cons kind kinds ih =>
      obtain ⟨found, scanner, notes, asked, outcome⟩ := buildKinds_cons_ok ok
      rcases outcome with ⟨f, mid, next, rfl, made, context, others⟩ |
        ⟨listed, first, mid, t, next, more, rfl, built, others, rfl⟩
      · obtain ⟨ds, units, enlists, -⟩ := ih others
        have skip : Enlists position d s [] mid s := .nothing made context
        refine ⟨ds, units, skip.trans enlists, fun decls serves => ?_⟩
        -- A scanner that serves a list never has a structural fault.
        exact absurd rfl (select_error (serves.query asked).1.symm f)
      · obtain ⟨ds, found, taken, enlists, same⟩ := buildAll_spec built
        obtain ⟨xs, foundRest, enlistsRest, servedRest⟩ := ih others
        have enlists' : Enlists position d s ds mid t :=
          ⟨enlists.station, enlists.made, enlists.serials, enlists.entries, enlists.owned,
            enlists.context⟩
        refine ⟨ds ++ xs, ?_, enlists'.trans enlistsRest, fun decls serves => ?_⟩
        · rw [List.map_append, ← found, foundRest]
        · obtain ⟨selected, goesOn⟩ := serves.query asked
          rw [same, enlists'.context] at servedRest
          obtain ⟨lastServes, takenRest⟩ := servedRest decls goesOn
          refine ⟨lastServes, ?_⟩
          rw [List.map_append, takenRest, taken, enlists'.marker, select_spec selected.symm]
          rw [chosen_cons, ← filter_isTaken_select]

theorem discoverAmong_spec {targets : Targets} {units : List (WorkUnit (Delegate σ))}
    (ok : d.discoverAmong targets position s w = (.ok units, d', s', w')) :
    ∃ ds : List (Delegate σ), units = ds.map Delegate.unit ∧ Enlists position d s ds d' s' ∧
      ∀ decls, d.scanner.Serves d.context.packages decls →
        d'.scanner.Serves d.context.packages decls ∧ ds.map Delegate.declaration =
          chosen d.context s.entry.marker targets.kinds decls := by
  unfold discoverAmong at ok
  generalize begun : (if targets.unknown.isEmpty then (d, w)
    else d.record (unknownTargets s.entry.marker targets.unknown) w) = start at ok
  obtain ⟨mid, ready⟩ := start
  have same : mid.made = d.made ∧ mid.context = d.context ∧ mid.scanner = d.scanner := by
    split at begun <;> cases begun <;> exact ⟨rfl, rfl, rfl⟩
  cases built : buildKinds position targets.kinds mid s ready with
  | mk result rest =>
      obtain ⟨last, t, next⟩ := rest
      simp only [built] at ok
      cases result with
      | error f => cases ok
      | ok found =>
          obtain ⟨ds, isFound, enlists, served⟩ := buildKinds_spec built
          cases ok
          have skip : Enlists position d s [] mid s := .nothing same.1 same.2.1
          refine ⟨ds, isFound, skip.trans enlists, fun decls serves => ?_⟩
          rw [same.2.1, same.2.2] at served
          exact served decls serves

theorem discover_eq {targets : Targets} (asked : (Targets.ofType s.entry.marker).1 = .ok targets) :
    d.discover position s w =
      d.discoverAmong targets position s (w.note (Targets.ofType s.entry.marker).2) := by
  unfold discover
  split
  · next f notes failed => cases asked.symm.trans (congrArg Prod.fst failed)
  · next targets' notes found =>
      cases asked.symm.trans (congrArg Prod.fst found)
      rw [found]

/-- Discovery ends where the targets cannot be asked for. -/
theorem discover_eq_error {f : Fault} (failed : (Targets.ofType s.entry.marker).1 = .error f) :
    d.discover position s w = (.error f, d, s, w.note (Targets.ofType s.entry.marker).2) := by
  unfold discover
  split
  · next f' notes failed' =>
      cases failed.symm.trans (congrArg Prod.fst failed')
      rw [failed']
  · next targets notes found => cases failed.symm.trans (congrArg Prod.fst found)

/-- Discovery that returns got the targets. -/
theorem discover_eq_ok {units : List (WorkUnit (Delegate σ))}
    (ok : d.discover position s w = (.ok units, d', s', w')) :
    ∃ targets notes, Targets.ofType s.entry.marker = (.ok targets, notes) ∧
      d.discoverAmong targets position s (w.note notes) = (.ok units, d', s', w') := by
  unfold discover at ok
  split at ok
  · cases ok
  · next targets notes asked => exact ⟨targets, notes, asked, ok⟩

/-- **Discovery at a station enlists delegates**; a scanner that serves a list has
them chosen from it kind by kind. -/
theorem discover_spec {units : List (WorkUnit (Delegate σ))}
    (ok : d.discover position s w = (.ok units, d', s', w')) :
    ∃ ds : List (Delegate σ), units = ds.map Delegate.unit ∧ Enlists position d s ds d' s' ∧
      ∀ decls, d.scanner.Serves d.context.packages decls →
        d'.scanner.Serves d.context.packages decls ∧ ds.map Delegate.declaration =
          chosen d.context s.entry.marker s.entry.marker.kinds decls := by
  obtain ⟨targets, notes, asked, among⟩ := discover_eq_ok ok
  rw [MarkerType.kinds_eq (congrArg Prod.fst asked)]
  exact discoverAmong_spec among

end Discovery

end Marking
