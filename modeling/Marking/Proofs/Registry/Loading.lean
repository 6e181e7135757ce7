/-
# Marking.Proofs.Registry.Loading -- what loading published handlers registers

A group of published objects is loaded one after the other.  An object that cannot be loaded, that
describes no handler, or whose marker type is registered already, is passed over.  Of the others,
the first one for each marker type is stored (`newcomers`), whole or without its rules, and the
loading goes on (`Loaded`).

Three kinds of objects end it (`Stops`).  One publishes a marker that cannot be looked up, since it
cannot be a key, like a list.  One is the first for its marker type, and its rules break off with
a fault that is no type fault.  One describes no handler and cannot even be written for the message
that refuses it.  Everything before such an object is loaded, and nothing behind it
(`loading_ends`).

An object whose rules cannot be listed is passed over with a warning.  But its handler stays, and
keeps out a later object that describes the marker type in full (`Loaded.first`).
-/
import Marking.Proofs.Registry.Storing
import Marking.Registry.Published

set_option autoImplicit false

namespace Marking

variable {σ : Type}

/-- A handler that is published for a marker type, with what is offered as its rules. -/
@[ext]
structure Publication (σ : Type) where
  marker : MarkerType
  handler : Handler σ
  rules : RuleOffer

def Publication.rules? (d : Publication σ) : Option (List Rule) := d.rules.listed.toOption

/-- What an entry-point publishes, if it can be loaded and describes a handler. -/
def EntryPoint.publication? (p : EntryPoint σ) : Option (Publication σ) :=
  match p.content with
  | .error _ => none
  | .ok x =>
    match x.marker.asMarkerType?, x.handler with
    | some t, .handler h => some ⟨t, h, x.rules⟩
    | _, _ => none

/-- Why the marker that an entry-point publishes cannot be looked up. -/
def EntryPoint.unhashable? (p : EntryPoint σ) : Option Fault :=
  match p.content with
  | .error _ => none
  | .ok x =>
    match x.marker.requireHashable with
    | .error f => some f
    | .ok () => none

theorem EntryPoint.publication?_iff {p : EntryPoint σ} {x : Published σ} (content : p.content = .ok x)
    {d : Publication σ} : p.publication? = some d ↔
      x.marker.asMarkerType? = some d.marker ∧ x.handler = .handler d.handler ∧ x.rules = d.rules := by
  obtain ⟨marker, offer, rules⟩ := x
  rw [EntryPoint.publication?, content]
  cases isType : marker.asMarkerType? <;> cases offer <;> simp [isType, Publication.ext_iff]

namespace Registry

variable {r next final : Registry σ} {p : EntryPoint σ} {ps : List (EntryPoint σ)}
  {d : Publication σ} {ds : List (Publication σ)} {n : Nat}

/-! ## One entry-point -/

/-- What the entry-point publishes describes no handler, and is refused with a fault that is no
type fault: it cannot be written for the message. -/
def Unwritten (r : Registry σ) (p : EntryPoint σ) (f : Fault) : Prop :=
  ∃ x, p.content = .ok x ∧ p.unhashable? = none ∧
    (∀ t, x.marker.asMarkerType? = some t → r.has t = false) ∧ Refusal r x.marker x.handler f ∧
    f.isA .type = false

/-- The ways in which the loading of one entry-point ends. -/
inductive Loads (r : Registry σ) (p : EntryPoint σ) : Except Fault Bool → Registry σ → Prop
  | idle : p.unhashable? = none → (∀ d, p.publication? = some d → r.has d.marker = true) →
      (∀ f, ¬ Unwritten r p f) → Loads r p (.ok false) r
  | whole {d : Publication σ} {rs : List Rule} : p.publication? = some d →
      r.has d.marker = false → d.rules.listed = .ok rs →
      Loads r p (.ok true) (r.store d.marker d.handler rs)
  | half {d : Publication σ} {f : Fault} : p.publication? = some d → r.has d.marker = false →
      d.rules.listed = .error f → f.isA .type = true →
      Loads r p (.ok false) (r.storeHandler d.marker d.handler)
  | broken {d : Publication σ} {f : Fault} : p.publication? = some d → r.has d.marker = false →
      d.rules.listed = .error f → f.isA .type = false →
      Loads r p (.error f) (r.storeHandler d.marker d.handler)
  | unhashable {f : Fault} : p.unhashable? = some f → Loads r p (.error f) r
  | unwritten {f : Fault} : Unwritten r p f → Loads r p (.error f) r

theorem requireHashable_type {v : Value} {t : MarkerType} (isType : v.asMarkerType? = some t) :
    v.requireHashable = .ok () := by
  cases v with
  | markerType _ => rfl
  | _ => cases isType

theorem Refusal.unique {marker : Value} {offer : Offer σ} {f g : Fault}
    (refusal : Refusal r marker offer f) (other : Refusal r marker offer g) : f = g := by
  cases refusal with
  | notType none =>
      cases other with
      | notType _ => rfl
      | notHandler isType => cases none.symm.trans isType
      | present isType _ => cases none.symm.trans isType
  | notHandler isType =>
      cases other with
      | notType none => cases none.symm.trans isType
      | notHandler isType' =>
          cases isType.symm.trans isType'
          rfl
  | present isType _ =>
      cases other with
      | notType none => cases none.symm.trans isType
      | present isType' _ =>
          cases isType.symm.trans isType'
          rfl

/-- What is refused for another reason than its marker type having a handler is refused by every
registry. -/
theorem Refusal.of_new {marker : Value} {offer : Offer σ} {f : Fault}
    (refusal : Refusal r marker offer f)
    (new : ∀ t, marker.asMarkerType? = some t → r.has t = false) (next : Registry σ) :
    Refusal next marker offer f := by
  cases refusal with
  | notType none => exact .notType none
  | notHandler isType => exact .notHandler isType
  | present isType known =>
      rw [new _ isType] at known
      cases known

theorem contains_hashable {v : Value} (hashable : v.requireHashable = .ok ()) :
    r.contains v = .ok (v.asMarkerType?.bind r.handler?).isSome := by
  rw [contains, handlerOf?, hashable]
  rfl

def outcomeOf : Except Fault Unit → Except Fault Bool
  | .ok () => .ok true
  | .error f => if f.isA .type then .ok false else .error f

/-- A published object is registered, unless its marker type has a handler. -/
theorem loadOne_register {x : Published σ} (content : p.content = .ok x)
    (new : r.contains x.marker = .ok false) :
    (r.loadOne p).1 = outcomeOf (r.register x.marker x.handler x.rules).1 ∧
      (r.loadOne p).2.1 = (r.register x.marker x.handler x.rules).2.1 := by
  rw [loadOne]
  simp only [content, new]
  obtain ⟨result, next, notes⟩ := r.register x.marker x.handler x.rules
  cases result with
  | ok _ => exact ⟨rfl, rfl⟩
  | error f => cases isType : f.isA .type <;> simp [outcomeOf, isType]

/-- A registration of what an entry-point publishes, as a step of the loading. -/
theorem Registers.loads {x : Published σ} {result : Except Fault Unit} (content : p.content = .ok x)
    (hashable : p.unhashable? = none)
    (unknown : ∀ t, x.marker.asMarkerType? = some t → r.has t = false)
    (registers : Registers r x.marker x.handler x.rules result next) :
    Loads r p (outcomeOf result) next := by
  have published : ∀ {t h}, r.Admits x.marker x.handler t h →
      p.publication? = some ⟨t, h, x.rules⟩ := fun admits =>
    (EntryPoint.publication?_iff content).2 ⟨admits.isType, admits.isHandler, rfl⟩
  cases registers with
  | whole admits listed => exact .whole (published admits) admits.isNew listed
  | @half t h f admits broken =>
      cases isType : f.isA .type with
      | true =>
          rw [outcomeOf, if_pos isType]
          exact .half (published admits) admits.isNew broken isType
      | false =>
          rw [outcomeOf, if_neg (Bool.eq_false_iff.1 isType)]
          exact .broken (published admits) admits.isNew broken isType
  | @refused f refusal =>
      cases isType : f.isA .type with
      | true =>
          rw [outcomeOf, if_pos isType]
          refine .idle hashable (fun d is => ?_) ?_
          · obtain ⟨isMarker, isHandler, -⟩ := (EntryPoint.publication?_iff content).1 is
            cases known : r.has d.marker with
            | true => rfl
            | false => exact absurd ⟨isMarker, isHandler, known⟩ refusal.not_admits
          · rintro f' ⟨x', content', -, -, refusal', other⟩
            cases content.symm.trans content'
            rw [refusal.unique refusal', other] at isType
            cases isType
      | false =>
          rw [outcomeOf, if_neg (Bool.eq_false_iff.1 isType)]
          exact .unwritten ⟨x, content, hashable, unknown, refusal, isType⟩

theorem loadOne_spec (r : Registry σ) (p : EntryPoint σ) :
    Loads r p (r.loadOne p).1 (r.loadOne p).2.1 := by
  cases content : p.content with
  | error f =>
      have skipped : (r.loadOne p).1 = .ok false ∧ (r.loadOne p).2.1 = r := by
        rw [loadOne]
        simp only [content, and_self]
      rw [skipped.1, skipped.2]
      refine .idle (by rw [EntryPoint.unhashable?, content]) (fun d is => ?_) ?_
      · rw [EntryPoint.publication?, content] at is
        cases is
      · rintro f' ⟨x, content', -⟩
        cases content.symm.trans content'
  | ok x =>
      cases hashed : x.marker.requireHashable with
      | error f =>
          have ended : (r.loadOne p).1 = .error f ∧ (r.loadOne p).2.1 = r := by
            rw [loadOne]
            simp only [content, contains, handlerOf?, hashed]
            exact ⟨rfl, rfl⟩
          rw [ended.1, ended.2]
          exact .unhashable (by rw [EntryPoint.unhashable?, content]; simp only [hashed])
      | ok _ =>
          have hashable : p.unhashable? = none := by
            rw [EntryPoint.unhashable?, content]
            simp only [hashed]
          cases known : (x.marker.asMarkerType?.bind r.handler?).isSome with
          | true =>
              have skipped : (r.loadOne p).1 = .ok false ∧ (r.loadOne p).2.1 = r := by
                rw [loadOne]
                simp only [content, contains_hashable hashed, known, and_self]
              rw [skipped.1, skipped.2]
              refine .idle hashable (fun d is => ?_) ?_
              · rw [((EntryPoint.publication?_iff content).1 is).1] at known
                exact known
              · rintro f ⟨x', content', -, new, -⟩
                cases content.symm.trans content'
                obtain ⟨h, hasHandler⟩ := Option.isSome_iff_exists.1 known
                obtain ⟨t, isType, found⟩ := Option.bind_eq_some_iff.1 hasHandler
                have new := new t isType
                rw [has, found] at new
                cases new
          | false =>
              have new : r.contains x.marker = .ok false := known ▸ contains_hashable hashed
              obtain ⟨resultEq, nextEq⟩ := loadOne_register content new
              rw [resultEq, nextEq]
              refine (r.register_spec x.marker x.handler x.rules).loads content hashable ?_
              intro t isType
              rw [isType] at known
              exact known

/-! ## The first of its marker type -/

def publications (ps : List (EntryPoint σ)) : List (Publication σ) :=
  ps.filterMap EntryPoint.publication?

/-- The first publication for a marker type. -/
def first? (ds : List (Publication σ)) (t : MarkerType) : Option (Publication σ) :=
  ds.find? fun d => d.marker == t

/-- The publications whose marker type has no handler, and was not published before. -/
def newcomers (handlers : List (MarkerType × Handler σ)) :
    List (Publication σ) → List (Publication σ)
  | [] => []
  | d :: ds =>
    if (lookup handlers d.marker).isSome then newcomers handlers ds
    else d :: newcomers (handlers ++ [(d.marker, d.handler)]) ds

theorem first?_cons (d : Publication σ) (ds : List (Publication σ)) (t : MarkerType) :
    first? (d :: ds) t = if d.marker.serial = t.serial then some d else first? ds t := by
  rw [first?, List.find?_cons]
  by_cases same : d.marker.serial = t.serial
  · rw [if_pos same, MarkerType.beq_iff.2 same]
  · rw [if_neg same, Bool.eq_false_iff.2 (mt MarkerType.beq_iff.1 same)]
    rfl

/-- **The newcomers are looked up by the first publication for a marker type**, for marker types
without a handler. -/
theorem lookup_newcomers {α : Type} (f : Publication σ → Option α)
    (handlers : List (MarkerType × Handler σ)) (ds : List (Publication σ)) (t : MarkerType) :
    lookup ((newcomers handlers ds).filterMap fun d => (f d).map (d.marker, ·)) t =
      if (lookup handlers t).isSome then none else (first? ds t).bind f := by
  induction ds generalizing handlers with
  | nil =>
      rw [newcomers, List.filterMap_nil]
      exact (ite_self none).symm
  | cons d ds ih =>
      rw [newcomers, first?_cons]
      by_cases same : d.marker.serial = t.serial
      · have both : lookup handlers d.marker = lookup handlers t := by rw [lookup_eq, lookup_eq, same]
        rw [both, if_pos same, Option.bind_some]
        by_cases known : (lookup handlers t).isSome = true
        · rw [if_pos known, if_pos known, ih, if_pos known]
        · have now : (lookup (handlers ++ [(d.marker, d.handler)]) t).isSome = true := by
            rw [lookup_append, lookup_single, if_pos same, Option.isSome_or]
            exact Bool.or_true _
          rw [if_neg known, if_neg known, List.filterMap_cons]
          cases f d with
          | none => rw [Option.map_none, ih, if_pos now]
          | some x => rw [Option.map_some, lookup_cons, if_pos same]
      · rw [if_neg same]
        by_cases known : (lookup handlers d.marker).isSome = true
        · rw [if_pos known, ih]
        · have still : lookup (handlers ++ [(d.marker, d.handler)]) t = lookup handlers t := by
            rw [lookup_append, lookup_single, if_neg same, Option.or_none]
          rw [if_neg known, List.filterMap_cons]
          cases f d with
          | none => rw [Option.map_none, ih, still]
          | some x => rw [Option.map_some, lookup_cons, if_neg same, ih, still]

/-! ## What is stored -/

/-- The newcomers are stored behind what there was, whole or without their rules, and `n` of them
are whole. -/
structure Stored (r : Registry σ) (ds : List (Publication σ)) (n : Nat) (next : Registry σ) :
    Prop where
  handlers : next.handlers =
    r.handlers ++ (newcomers r.handlers ds).map fun d => (d.marker, d.handler)
  rules : next.rules =
    r.rules ++ (newcomers r.handlers ds).filterMap fun d => d.rules?.map (d.marker, ·)
  /-- A handler without rules does not make the registry forget its ordering. -/
  ordering : next.ordering = if n = 0 then r.ordering else none
  count : n = ((newcomers r.handlers ds).filterMap Publication.rules?).length

namespace Stored

theorem nothing (r : Registry σ) : Stored r [] 0 r where
  handlers := (List.append_nil _).symm
  rules := (List.append_nil _).symm
  ordering := rfl
  count := rfl

theorem known (isKnown : r.has d.marker = true) (stored : Stored r ds n next) :
    Stored r (d :: ds) n next := by
  have same : newcomers r.handlers (d :: ds) = newcomers r.handlers ds := by
    rw [newcomers, if_pos (has_iff.1 isKnown)]
  exact ⟨same ▸ stored.handlers, same ▸ stored.rules, stored.ordering, same ▸ stored.count⟩

theorem newcomers_cons (isNew : r.has d.marker = false) (ds : List (Publication σ)) :
    newcomers r.handlers (d :: ds) =
      d :: newcomers (r.storeHandler d.marker d.handler).handlers ds := by
  rw [newcomers, if_neg (by rw [← has_iff, isNew]; exact Bool.false_ne_true)]
  rfl

theorem whole {rs : List Rule} (isNew : r.has d.marker = false) (listed : d.rules.listed = .ok rs)
    (stored : Stored (r.store d.marker d.handler rs) ds n next) : Stored r (d :: ds) (n + 1) next := by
  have isListed : d.rules? = some rs := by rw [Publication.rules?, listed]; rfl
  obtain ⟨handlers, rules, ordering, count⟩ := stored
  constructor
  · rw [newcomers_cons isNew, List.map_cons, handlers]
    exact List.append_assoc _ [_] _
  · rw [newcomers_cons isNew, List.filterMap_cons, isListed, rules]
    exact List.append_assoc _ [_] _
  · rw [if_neg n.succ_ne_zero, ordering]
    exact ite_self none
  · rw [newcomers_cons isNew, List.filterMap_cons, isListed, List.length_cons, count]
    rfl

theorem half {f : Fault} (isNew : r.has d.marker = false) (broken : d.rules.listed = .error f)
    (stored : Stored (r.storeHandler d.marker d.handler) ds n next) : Stored r (d :: ds) n next := by
  have isBroken : d.rules? = none := by rw [Publication.rules?, broken]; rfl
  obtain ⟨handlers, rules, ordering, count⟩ := stored
  constructor
  · rw [newcomers_cons isNew, List.map_cons, handlers]
    exact List.append_assoc _ [_] _
  · rw [newcomers_cons isNew, List.filterMap_cons, isBroken, rules]
    rfl
  · exact ordering
  · rw [newcomers_cons isNew, List.filterMap_cons, isBroken]
    exact count

/-- A marker type keeps its handler; one without a handler gets that of the first publication. -/
theorem handler? (stored : Stored r ds n next) (t : MarkerType) :
    next.handler? t = (r.handler? t).or ((first? ds t).map Publication.handler) := by
  have found := lookup_newcomers (fun d => some d.handler) r.handlers ds t
  simp only [Option.map_some] at found
  rw [Registry.handler?, Registry.handler?, stored.handlers, lookup_append, ← List.filterMap_eq_map,
    Function.comp_def, found]
  cases lookup r.handlers t with
  | some h => rfl
  | none => cases first? ds t <;> rfl

/-- A marker type keeps its rules; one without a handler gets those of the first publication,
if they can be listed. -/
theorem lookup_rules (stored : Stored r ds n next) (t : MarkerType) :
    lookup next.rules t = (lookup r.rules t).or
      (if r.has t then none else (first? ds t).bind Publication.rules?) := by
  rw [stored.rules, lookup_append, lookup_newcomers]
  rfl

/-- Marker types without a handler are those that had none and are not published. -/
theorem has_eq_false (stored : Stored r ds n next) (t : MarkerType) :
    next.has t = false ↔ r.has t = false ∧ first? ds t = none := by
  rw [Registry.has_eq_false, Registry.has_eq_false, ← Registry.handler?, ← Registry.handler?,
    stored.handler?, Option.or_eq_none_iff, Option.map_eq_none_iff]

end Stored

/-! ## One after the other -/

/-- After some entry-points, this one ends the loading with a fault: what it publishes as its
marker cannot be looked up, or it is the first for a new marker type, and its rules break off with
a fault that is no type fault, or what it publishes is to be refused and cannot be written. -/
inductive Stops (r : Registry σ) (before : List (EntryPoint σ)) (p : EntryPoint σ) (f : Fault) : Prop
  | unhashable : p.unhashable? = some f → Stops r before p f
  | unwritten : Unwritten r p f → (∀ x t, p.content = .ok x → x.marker.asMarkerType? = some t →
      first? (publications before) t = none) → Stops r before p f
  | broken {d : Publication σ} : p.publication? = some d → r.has d.marker = false →
      first? (publications before) d.marker = none → d.rules.listed = .error f →
      f.isA .type = false → Stops r before p f

/-- None of the entry-points ends the loading. -/
def Unstopped (r : Registry σ) (ps : List (EntryPoint σ)) : Prop :=
  ∀ before p after f, ps = before ++ p :: after → ¬ Stops r before p f

variable {before after : List (EntryPoint σ)} {q : EntryPoint σ} {new : Bool} {f : Fault}

/-- A publication is of a marker type, which can be looked up. -/
theorem hashable_of_publication (published : p.publication? = some d) : p.unhashable? = none := by
  cases content : p.content with
  | error f => rw [EntryPoint.unhashable?, content]
  | ok x =>
      obtain ⟨isType, -⟩ := (EntryPoint.publication?_iff content).1 published
      rw [EntryPoint.unhashable?, content]
      simp only [requireHashable_type isType]

theorem publications_cons (p : EntryPoint σ) (ps : List (EntryPoint σ)) :
    publications (p :: ps) = p.publication?.toList ++ publications ps := by
  rw [publications, List.filterMap_cons]
  cases p.publication? <;> rfl

/-- One entry-point more is stored in front. -/
theorem Loads.stored (loads : Loads r p (.ok new) next)
    (stored : Stored next (publications ps) n final) :
    Stored r (publications (p :: ps)) (if new then n + 1 else n) final := by
  rw [publications_cons]
  cases loads with
  | idle _ known _ =>
      cases published : p.publication? with
      | none => exact stored
      | some d => exact stored.known (known d published)
  | whole published isNew listed =>
      rw [published]
      exact stored.whole isNew listed
  | half published isNew broken _ =>
      rw [published]
      exact stored.half isNew broken

/-- After an entry-point, the marker types with a handler are those from before and its own. -/
theorem Loads.has_eq_false (loads : Loads r p (.ok new) next) (t : MarkerType) :
    next.has t = false ↔ r.has t = false ∧ first? p.publication?.toList t = none := by
  have one : Stored r (publications [p]) _ next := loads.stored (Stored.nothing next)
  rw [one.has_eq_false, publications_cons, publications, List.filterMap_nil, List.append_nil]

theorem first?_append (ds es : List (Publication σ)) (t : MarkerType) :
    first? (ds ++ es) t = (first? ds t).or (first? es t) := List.find?_append

/-- What stops the loading after an entry-point stops it from the registry that this one left. -/
theorem Loads.stops_cons (loads : Loads r q (.ok new) next) :
    Stops r (q :: before) p f ↔ Stops next before p f := by
  have unknown : ∀ t, r.has t = false ∧ first? (publications (q :: before)) t = none ↔
      next.has t = false ∧ first? (publications before) t = none := by
    intro t
    rw [loads.has_eq_false, publications_cons, first?_append, Option.or_eq_none_iff, and_assoc]
  constructor
  · rintro (unhashable | ⟨⟨x, content, hashable, new, refusal, other⟩, first⟩ |
      ⟨published, isNew, isFirst, broken, other⟩)
    · exact .unhashable unhashable
    · have later (t : MarkerType) (isType : x.marker.asMarkerType? = some t) :=
        (unknown t).1 ⟨new t isType, first x t content isType⟩
      refine .unwritten ⟨x, content, hashable, fun t isType => (later t isType).1,
        refusal.of_new new next, other⟩ fun x' t content' isType => ?_
      cases content.symm.trans content'
      exact (later t isType).2
    · obtain ⟨isNew, isFirst⟩ := (unknown _).1 ⟨isNew, isFirst⟩
      exact .broken published isNew isFirst broken other
  · rintro (unhashable | ⟨⟨x, content, hashable, new, refusal, other⟩, first⟩ |
      ⟨published, isNew, isFirst, broken, other⟩)
    · exact .unhashable unhashable
    · have later (t : MarkerType) (isType : x.marker.asMarkerType? = some t) :=
        (unknown t).2 ⟨new t isType, first x t content isType⟩
      refine .unwritten ⟨x, content, hashable, fun t isType => (later t isType).1,
        refusal.of_new new r, other⟩ fun x' t content' isType => ?_
      cases content.symm.trans content'
      exact (later t isType).2
    · obtain ⟨isNew, isFirst⟩ := (unknown _).2 ⟨isNew, isFirst⟩
      exact .broken published isNew isFirst broken other

/-- What describes a handler for a new marker type is not refused. -/
theorem Unwritten.has_of_publication (unwritten : Unwritten r p f)
    (published : p.publication? = some d) : r.has d.marker = true := by
  obtain ⟨x, content, -, -, refusal, -⟩ := unwritten
  obtain ⟨isType, isHandler, -⟩ := (EntryPoint.publication?_iff content).1 published
  by_contra unknown
  exact refusal.not_admits ⟨isType, isHandler, Bool.eq_false_iff.2 unknown⟩

/-- What is loaded does not end the loading. -/
theorem Loads.not_stops (loads : Loads r p (.ok new) next) : ¬ Stops r [] p f := by
  have unhashable : p.unhashable? = none := by
    cases loads with
    | idle hashable _ _ => exact hashable
    | whole published _ _ => exact hashable_of_publication published
    | half published _ _ _ => exact hashable_of_publication published
  rintro (isUnhashable | ⟨unwritten, -⟩ | ⟨published, isNew, -, broken, other⟩)
  · rw [unhashable] at isUnhashable
    cases isUnhashable
  · cases loads with
    | idle _ _ written => exact written f unwritten
    | whole published isNew _ =>
        rw [unwritten.has_of_publication published] at isNew
        cases isNew
    | half published isNew _ _ =>
        rw [unwritten.has_of_publication published] at isNew
        cases isNew
  · cases loads with
    | idle _ known _ =>
        rw [known _ published] at isNew
        cases isNew
    | whole published' _ listed =>
        cases published.symm.trans published'
        rw [listed] at broken
        cases broken
    | half published' _ broken' isType =>
        cases published.symm.trans published'
        cases broken.symm.trans broken'
        rw [isType] at other
        cases other

/-- What ends the loading stops it, and stores at most a handler. -/
theorem Loads.stops (loads : Loads r p (.error f) next) :
    Stops r [] p f ∧ Stored r (publications [p]) 0 next := by
  rw [publications_cons]
  cases loads with
  | broken published isNew broken other =>
      refine ⟨.broken published isNew rfl broken other, ?_⟩
      rw [published]
      exact (Stored.nothing _).half isNew broken
  | unhashable isUnhashable =>
      refine ⟨.unhashable isUnhashable, ?_⟩
      cases published : p.publication? with
      | none => exact Stored.nothing _
      | some d =>
          rw [hashable_of_publication published] at isUnhashable
          cases isUnhashable
  | unwritten unwritten =>
      refine ⟨.unwritten unwritten fun _ _ _ _ => rfl, ?_⟩
      cases published : p.publication? with
      | none => exact Stored.nothing _
      | some d => exact (Stored.nothing _).known (unwritten.has_of_publication published)

theorem unstopped_nil : Unstopped r [] := by
  intro before p after f split
  cases before <;> cases split

theorem Loads.unstopped_cons (loads : Loads r p (.ok new) next) (unstopped : Unstopped next ps) :
    Unstopped r (p :: ps) := by
  rintro (_ | ⟨q, before⟩) p' after f split stops
  · cases split
    exact loads.not_stops stops
  · cases split
    exact unstopped before p' after f rfl (loads.stops_cons.1 stops)

/-- The two ways in which the loading of several entry-points ends. -/
inductive Ends (r : Registry σ) : List (EntryPoint σ) → Except Fault Nat → Registry σ → Prop
  | returned {ps : List (EntryPoint σ)} {n : Nat} {next : Registry σ} : Unstopped r ps →
      Stored r (publications ps) n next → Ends r ps (.ok n) next
  | stopped {before after : List (EntryPoint σ)} {p : EntryPoint σ} {f : Fault} {n : Nat}
      {next : Registry σ} : Unstopped r before → Stops r before p f →
      Stored r (publications (before ++ [p])) n next → Ends r (before ++ p :: after) (.error f) next

/-- **One step**: an entry-point that is loaded goes in front of what ends from there. -/
theorem Loads.ends {result : Except Fault Nat} (loads : Loads r p (.ok new) next)
    (ends : Ends next ps result final) :
    Ends r (p :: ps) (result.map fun n => if new then n + 1 else n) final := by
  cases ends with
  | returned unstopped stored =>
      exact .returned (loads.unstopped_cons unstopped) (loads.stored stored)
  | stopped unstopped stops stored =>
      exact .stopped (loads.unstopped_cons unstopped) (loads.stops_cons.2 stops) (loads.stored stored)

theorem loadEach_spec (r : Registry σ) (ps : List (EntryPoint σ)) :
    Ends r ps (r.loadEach ps).1 (r.loadEach ps).2.1 := by
  induction ps generalizing r with
  | nil => exact .returned unstopped_nil (.nothing r)
  | cons p ps ih =>
      have loads := r.loadOne_spec p
      rw [loadEach]
      generalize r.loadOne p = outcome at loads ⊢
      obtain ⟨result, next, notes⟩ := outcome
      cases result with
      | error f =>
          obtain ⟨stops, stored⟩ := loads.stops
          exact Ends.stopped unstopped_nil stops stored
      | ok new => exact loads.ends (ih next)

/-- What is stored, and how it is looked up. -/
structure Loaded (r : Registry σ) (ds : List (Publication σ)) (n : Nat) (next : Registry σ) : Prop
    extends Stored r ds n next where
  /-- A marker type keeps its handler; one without a handler gets that of the first publication. -/
  first : ∀ t, next.handler? t = (r.handler? t).or ((first? ds t).map Publication.handler)
  /-- Likewise for its rules, if those of the first publication can be listed. -/
  ruled : ∀ t, lookup next.rules t = (lookup r.rules t).or
    (if r.has t then none else (first? ds t).bind Publication.rules?)

theorem Stored.loaded (stored : Stored r ds n next) : Loaded r ds n next :=
  ⟨stored, stored.handler?, stored.lookup_rules⟩

/-- **Loading a group ends with the first entry-point that stops it, and returns if there is
none.**  Up to there the first publication for each new marker type is stored; whatever cannot be
loaded or describes no handler is passed over. -/
theorem loading_ends (r : Registry σ) (group : String) (points : List (EntryPoint σ)) :
    let ps := points.filter fun p => p.group == group
    let result := (r.loadGroup group points).1
    let next := (r.loadGroup group points).2.1
    ((∃ n, result = .ok n) ↔ Unstopped r ps) ∧
      (∀ n, result = .ok n → Loaded r (publications ps) n next) ∧
      ∀ f, result = .error f → ∃ before p after n, ps = before ++ p :: after ∧
        Unstopped r before ∧ Stops r before p f ∧ Loaded r (publications (before ++ [p])) n next := by
  intro ps result next
  have ends : Ends r ps result next := r.loadEach_spec ps
  clear_value ps result next
  cases ends with
  | returned unstopped stored =>
      refine ⟨iff_of_true ⟨_, rfl⟩ unstopped, fun n' same => ?_, nofun⟩
      cases same
      exact stored.loaded
  | @stopped before after p f n _ unstopped stops stored =>
      refine ⟨iff_of_false nofun fun all => all before p after f rfl stops, nofun, fun f' same => ?_⟩
      cases same
      exact ⟨before, p, after, n, rfl, unstopped, stops, stored.loaded⟩

namespace Sample

def point (name : String) (published : Published Unit) : EntryPoint Unit :=
  ⟨name, "sample", .ok published⟩

def another : Handler Unit := { idle with name := "another" }

/-- One that cannot be loaded, one that describes nothing, and two for one marker type. -/
def mixed : List (EntryPoint Unit) :=
  [⟨"broken", "sample", .error (.handlerMissing "broken")⟩,
    point "junk" ⟨.null, .other .null, .absent⟩,
    point "early" ⟨.markerType first, .handler idle, .rules [⟨.after, second⟩]⟩,
    point "late" ⟨.markerType first, .handler another, .absent⟩]

theorem mixed_loaded : Unstopped ({} : Registry Unit) mixed ∧
    Loaded {} (publications mixed) 1 (({} : Registry Unit).loadGroup "sample" mixed).2.1 := by
  have inGroup : (mixed.filter fun p => p.group == "sample") = mixed := by rfl
  have ended : (({} : Registry Unit).loadGroup "sample" mixed).1 = .ok 1 := by rfl
  obtain ⟨returns, loaded, -⟩ := loading_ends ({} : Registry Unit) "sample" mixed
  rw [inGroup] at returns loaded
  exact ⟨returns.1 ⟨1, ended⟩, loaded 1 ended⟩

def good : EntryPoint Unit := point "good" ⟨.markerType first, .handler idle, .absent⟩

/-- Names a list in place of a marker type. -/
def misnamed : EntryPoint Unit := point "misnamed" ⟨.list [.str "x"], .handler idle, .absent⟩

/-- Describes the first marker type, with a number for its rules. -/
def unruled : EntryPoint Unit :=
  point "unruled" ⟨.markerType first, .handler another, .unlisted (.notIterable "int")⟩

/-- Names a number in place of a marker type, and one that cannot be written. -/
def boundless : EntryPoint Unit := point "boundless" ⟨.int (Nat.pow 10 5000 : Nat), .handler idle, .absent⟩

/-- A good entry-point is not registered behind a bad one: what names no marker type may end the
loading, and what is passed over for its rules leaves its handler. -/
theorem good_kept_out :
    (({} : Registry Unit).loadGroup "sample" [misnamed, good]).1 = .error (.unhashable "list") ∧
      (({} : Registry Unit).loadGroup "sample" [misnamed, good]).2.1.has first = false ∧
      (({} : Registry Unit).loadGroup "sample" [unruled, good]).1 = .ok 0 ∧
      ((({} : Registry Unit).loadGroup "sample" [unruled, good]).2.1.handler? first).map
        Handler.name = some "another" ∧
      lookup (({} : Registry Unit).loadGroup "sample" [unruled, good]).2.1.rules first = none ∧
      (({} : Registry Unit).loadGroup "sample" [boundless, good]).1 = .error .unwritableInteger ∧
      (({} : Registry Unit).loadGroup "sample" [good]).1 = .ok 1 :=
  ⟨rfl, rfl, rfl, rfl, rfl, by decide +kernel, rfl⟩

end Sample

end Registry

end Marking
