/-
# Marking.Proofs.Discovery.Conversation -- what a handler is asked, and what comes of its replies

Discovery asks the handler of a station about one declaration after the other.  An `Inquiry` is
such a question: the delegate that it is about, as it is before, and the world in which it is
asked.  The reply settles the key and the needs of the delegate, and leaves a world in which the
next question is asked: between two of them the world only gets notes and the type of the next
owner (`Converses`).

A stretch of discovery that meets some declarations asks about each of them, in order, up to the
first check that fails (`Concludes`).  A conversation is followed from one declaration over the
answers of a scanner to the kinds of a marker type, and conversations that go on one after the
other add up (`Conversation.append`).
-/
import Marking.Proofs.Discovery.Faults

set_option autoImplicit false

namespace Marking

variable {σ : Type}

/-! ## Questions -/

structure Inquiry (σ : Type) where
  /-- The delegate that it is about, not settled yet. -/
  delegate : Delegate σ
  /-- The world in which the handler is asked. -/
  world : World σ

namespace Inquiry

def reply (ctx : Context) (q : Inquiry σ) : Except Fault Value × Control × World σ :=
  q.delegate.handler.check ctx q.delegate.view q.delegate.control q.world

def needs (ctx : Context) (q : Inquiry σ) : Except Fault (List UnitKey) :=
  (q.reply ctx).1.bind Value.dependencies

def Succeeds (ctx : Context) (q : Inquiry σ) : Prop := ∃ ks, q.needs ctx = .ok ks

/-- The delegate as the reply leaves it. -/
def settled (ctx : Context) (q : Inquiry σ) : Delegate σ :=
  { q.delegate with control := (q.reply ctx).2.1, needs := (q.needs ctx).toOption }

variable {ctx : Context} {q : Inquiry σ}

theorem not_succeeds {f : Fault} (failed : q.needs ctx = .error f) : ¬ q.Succeeds ctx := by
  rintro ⟨ks, named⟩
  rw [failed] at named
  cases named

/-- The unit of a settled delegate needs the keys that the reply names. -/
theorem unit_settled {ks : List UnitKey} (named : q.needs ctx = .ok ks) :
    (q.settled ctx).unit =
      { key := (q.reply ctx).2.1.key, items := [q.settled ctx], needs := ks } := by
  have needs : (q.settled ctx).needs = some ks := by
    rw [settled, named]
    rfl
  rw [Delegate.unit, needs]
  rfl

end Inquiry

/-- The questions are asked one after the other, from a world to a later one. -/
inductive Converses (ctx : Context) : World σ → List (Inquiry σ) → World σ → Prop
  | done (w : World σ) : Converses ctx w [] w
  | note {w w' : World σ} {qs : List (Inquiry σ)} (notes : Journal) :
      Converses ctx (w.note notes) qs w' → Converses ctx w qs w'
  | ask {w w' : World σ} {q : Inquiry σ} {qs : List (Inquiry σ)} :
      w.addType q.delegate.declaration.owner = (.ok (), q.world) →
      Converses ctx (q.reply ctx).2.2 qs w' → Converses ctx w (q :: qs) w'

theorem Converses.trans {ctx : Context} {w mid w' : World σ} {qs more : List (Inquiry σ)}
    (first : Converses ctx w qs mid) (second : Converses ctx mid more w') :
    Converses ctx w (qs ++ more) w' := by
  induction first with
  | done w => exact second
  | note notes _ ih => exact .note notes (ih second)
  | ask known _ ih => exact .ask known (ih second)

theorem Converses.noted (ctx : Context) (w : World σ) (notes : Journal) :
    Converses ctx w [] (w.note notes) := .note notes (.done _)

/-- The delegate is the one that a station makes for a declaration, before its handler is asked. -/
structure Delegate.IsFresh (position : Nat) (h : Handler σ) (t : MarkerType) (x : Declaration)
    (y : Delegate σ) : Prop where
  entry : y.entry = position
  handler : y.handler = h
  markerName : y.markerName = t.name
  declaration : y.declaration = x
  /-- It is bound to the first marker of the type. -/
  marker : x.marker? t = some y.marker
  key : x.ownerKey = .ok y.key
  control : y.control = .ofKey y.key
  unsettled : y.needs = none

/-- The owner of the declaration is a class or a text, has a key, and has a place in the scope. -/
structure Declaration.IsFindable (packages : List String) (x : Declaration) : Prop where
  owner : x.owner.IsOwner
  named : x.owner ≠ .str ""
  housed : x.IsHoused packages

/-- To ask for findable declarations does not fail. -/
theorem Declaration.select_findable {packages : List String} {decls : List Declaration}
    (kind : ElementKind) (t : MarkerType) (findable : ∀ x ∈ decls, x.IsFindable packages) :
    ∃ found, select kind t packages decls = .ok found := by
  have ends : (∃ found, select kind t packages decls = .ok found ∧ _) ∨ _ :=
    select_ends kind t fun x member => (findable x member).owner
  rcases ends with ⟨found, listed, -⟩ | ⟨x, member, unhoused, -⟩
  · exact ⟨found, listed⟩
  · exact absurd (findable x (List.mem_of_mem_filter member)).housed unhoused

namespace Discovery

/-- What comes of questions about declarations, asked in order: the units of the settled
delegates, or the first failed check, after which nothing is asked. -/
inductive Concludes (ctx : Context) (position : Nat) (h : Handler σ) (t : MarkerType)
    (met : List Declaration) :
    List (Inquiry σ) → Except Fault (List (WorkUnit (Delegate σ))) → Prop
  | all {qs : List (Inquiry σ)} :
      List.Forall₂ (fun x q => q.delegate.IsFresh position h t x) met qs →
      (∀ q ∈ qs, q.Succeeds ctx) →
      Concludes ctx position h t met qs (.ok (qs.map fun q => (q.settled ctx).unit))
  | fails {qs : List (Inquiry σ)} {q : Inquiry σ} {f : Fault} {x : Declaration}
      {seen unseen : List Declaration} : met = seen ++ x :: unseen →
      List.Forall₂ (fun x q => q.delegate.IsFresh position h t x) (seen ++ [x]) (qs ++ [q]) →
      (∀ q ∈ qs, q.Succeeds ctx) → q.needs ctx = .error f →
      Concludes ctx position h t met (qs ++ [q]) (.error (q.delegate.checkFault f))

variable {ctx : Context} {position : Nat} {h : Handler σ} {t : MarkerType}
  {met more : List Declaration} {qs rs : List (Inquiry σ)}
  {units : List (WorkUnit (Delegate σ))}

theorem Concludes.nothing : Concludes ctx position h t [] [] (.ok []) :=
  .all .nil fun _ member => nomatch member

/-- What comes of one question. -/
theorem Concludes.single {x : Declaration} {q : Inquiry σ}
    (fresh : q.delegate.IsFresh position h t x) :
    Concludes ctx position h t [x] [q]
      (((q.needs ctx).mapError q.delegate.checkFault).map fun ks =>
        [{ key := (q.settled ctx).unitKey, items := [q.settled ctx], needs := ks }]) := by
  have one : List.Forall₂ (fun x q => Delegate.IsFresh position h t x (Inquiry.delegate q)) [x] [q] :=
    .cons fresh .nil
  cases replied : q.needs ctx with
  | error f =>
      have first : [x] = [] ++ x :: [] := rfl
      have none : ∀ q ∈ ([] : List (Inquiry σ)), q.Succeeds ctx := by simp
      exact Concludes.fails first one none replied
  | ok ks =>
      have succeed : ∀ r ∈ [q], r.Succeeds ctx := by
        intro r member
        rw [List.mem_singleton.1 member]
        exact ⟨ks, replied⟩
      have all := Concludes.all one succeed
      rw [List.map_singleton, Inquiry.unit_settled replied] at all
      exact all

/-- Where all checks succeed the units are those of all declarations. -/
theorem Concludes.append {r : Except Fault (List (WorkUnit (Delegate σ)))}
    (first : Concludes ctx position h t met qs (.ok units))
    (second : Concludes ctx position h t more rs r) :
    Concludes ctx position h t (met ++ more) (qs ++ rs) (r.map (units ++ ·)) := by
  cases first with
  | all fresh succeed =>
      cases second with
      | all freshRest succeedRest =>
          have all : Concludes ctx position h t (met ++ more) (qs ++ rs) _ :=
            .all (List.rel_append fresh freshRest) (List.forall_mem_append.2 ⟨succeed, succeedRest⟩)
          rwa [List.map_append] at all
      | @fails rs q f x seen unseen split freshRest succeedRest failed =>
          have whole : met ++ more = (met ++ seen) ++ x :: unseen := by
            rw [split, List.append_assoc]
          -- The failed check stays last: what was asked before comes in front of all.
          rw [← List.append_assoc]
          refine .fails whole ?_ (List.forall_mem_append.2 ⟨succeed, succeedRest⟩) failed
          rw [List.append_assoc, List.append_assoc]
          exact List.rel_append fresh freshRest

/-- After a failed check nothing more is asked. -/
theorem Concludes.error {f : Fault} (first : Concludes ctx position h t met qs (.error f))
    (more : List Declaration) : Concludes ctx position h t (met ++ more) qs (.error f) := by
  cases first with
  | @fails qs q g x seen unseen split fresh succeed failed =>
      have whole : met ++ more = seen ++ x :: (unseen ++ more) := by
        rw [split, List.append_assoc, List.cons_append]
      exact .fails whole fresh succeed failed

/-- A failed check is the last one, and its fault is what comes of the stretch. -/
theorem Concludes.stopped {r : Except Fault (List (WorkUnit (Delegate σ)))}
    (concludes : Concludes ctx position h t met qs r) {q : Inquiry σ} (member : q ∈ qs) {f : Fault}
    (failed : q.needs ctx = .error f) :
    qs.getLast? = some q ∧ r = .error (q.delegate.checkFault f) := by
  have contrary := Inquiry.not_succeeds failed
  cases concludes with
  | all _ succeed => exact absurd (succeed q member) contrary
  | fails _ _ succeed failed' =>
      rcases List.mem_append.1 member with early | last
      · exact absurd (succeed q early) contrary
      · cases List.mem_singleton.1 last
        rw [failed] at failed'
        cases failed'
        exact ⟨List.getLast?_concat, rfl⟩

theorem Concludes.returned {r : Except Fault (List (WorkUnit (Delegate σ)))}
    (concludes : Concludes ctx position h t met qs r) (succeed : ∀ q ∈ qs, q.Succeeds ctx) :
    List.Forall₂ (fun x q => q.delegate.IsFresh position h t x) met qs ∧
      r = .ok (qs.map fun q => (q.settled ctx).unit) := by
  cases concludes with
  | all fresh _ => exact ⟨fresh, rfl⟩
  | @fails qs q f x seen unseen _ _ _ failed =>
      have last := succeed q (List.mem_append_right _ (List.mem_singleton_self q))
      exact absurd last (Inquiry.not_succeeds failed)

/-- Every question is about a delegate as the station makes it. -/
theorem Concludes.isFresh {r : Except Fault (List (WorkUnit (Delegate σ)))}
    (concludes : Concludes ctx position h t met qs r) {q : Inquiry σ} (member : q ∈ qs) :
    ∃ x, q.delegate.IsFresh position h t x := by
  obtain ⟨xs, fresh⟩ : ∃ xs,
      List.Forall₂ (fun x q => Delegate.IsFresh position h t x (Inquiry.delegate q)) xs qs := by
    cases concludes with
    | all fresh _ => exact ⟨_, fresh⟩
    | fails _ fresh _ _ => exact ⟨_, fresh⟩
  clear concludes
  induction fresh with
  | nil => cases member
  | cons here _ ih =>
      rcases List.mem_cons.1 member with rfl | later
      · exact ⟨_, here⟩
      · exact ih later

/-! ## Stretches -/

/-- In a stretch of discovery at a station that meets the declarations, the questions are asked;
the settled delegates are queued, and nothing else changes at the station. -/
structure Conversation (position : Nat) (d : Discovery) (s : Station σ) (w : World σ)
    (met : List Declaration) (qs : List (Inquiry σ))
    (x : Step σ (List (WorkUnit (Delegate σ)))) : Prop where
  concludes : Concludes d.context position s.handler s.entry.marker met qs x.1
  converses : Converses d.context w qs x.2.2.2
  station : x.2.2.1 =
    { s with entry := s.entry.addAll (qs.map fun q => q.settled d.context) }
  scanner : x.2.1.scanner = d.scanner
  context : x.2.1.context = d.context

variable {d mid : Discovery} {s s' : Station σ} {w next : World σ}

theorem Conversation.silent (position : Nat) (d : Discovery) (s : Station σ)
    (speaks : Converses d.context w [] next) :
    Conversation position d s w [] [] (.ok [], d, s, next) :=
  ⟨.nothing, speaks, rfl, rfl, rfl⟩

theorem Conversation.marker {x : Step σ (List (WorkUnit (Delegate σ)))}
    (talk : Conversation position d s w met qs x) : x.2.2.1.entry.marker = s.entry.marker := by
  rw [talk.station]
  exact Entry.marker_addAll _ _

theorem Conversation.append {y : Step σ (List (WorkUnit (Delegate σ)))}
    (first : Conversation position d s w met qs (.ok units, mid, s', next))
    (second : Conversation position mid s' next more rs y) :
    Conversation position d s w (met ++ more) (qs ++ rs) (y.1.map (units ++ ·), y.2) := by
  obtain ⟨concludes, converses, station, scanner, context⟩ := first
  obtain ⟨concludesRest, conversesRest, stationRest, scannerRest, contextRest⟩ := second
  dsimp only at concludes converses station scanner context
  subst station
  rw [context] at concludesRest conversesRest stationRest
  rw [Entry.marker_addAll] at concludesRest
  refine ⟨concludes.append concludesRest, converses.trans conversesRest, ?_,
    scannerRest.trans scanner, contextRest.trans context⟩
  rw [stationRest, List.map_append, Entry.addAll_append]

theorem Conversation.error {f : Fault} {rest : Discovery × Station σ × World σ}
    (first : Conversation position d s w met qs (.error f, rest)) (more : List Declaration) :
    Conversation position d s w (met ++ more) qs (.error f, rest) :=
  ⟨first.concludes.error more, first.converses, first.station, first.scanner, first.context⟩

/-- Asking a delegate for its needs is one question to its handler. -/
theorem required_inquiry {y : Delegate σ} (unsettled : y.needs = none) (ctx : Context)
    (w : World σ) :
    (y.required ctx w).1 = ((Inquiry.mk y w).needs ctx).mapError y.checkFault ∧
      (y.required ctx w).2.1 = (Inquiry.mk y w).settled ctx ∧
      Converses ctx ((Inquiry.mk y w).reply ctx).2.2 [] (y.required ctx w).2.2 := by
  rw [Delegate.required, unsettled, Inquiry.settled, Inquiry.needs, Inquiry.reply]
  cases y.handler.check ctx y.view y.control w with
  | mk answer rest =>
      obtain ⟨control, replied⟩ := rest
      dsimp only
      cases answer.bind Value.dependencies with
      | error f =>
          have fault : Delegate.checkFault { y with control } f = y.checkFault f := by
            cases f <;> rfl
          exact ⟨congrArg Except.error fault, rfl, .done _⟩
      | ok ks => exact ⟨rfl, rfl, .noted _ _ _⟩

/-- The delegate that a station makes for a declaration, before its handler is asked. -/
def newDelegate (d : Discovery) (position : Nat) (s : Station σ) (x : Declaration) (m : Marker)
    (key : UnitKey) : Delegate σ :=
  { serial := d.made, entry := position, markerName := s.entry.name, handler := s.handler
    declaration := x, marker := m, key, control := .ofKey key }

theorem enlist_eq (d : Discovery) (position : Nat) (s : Station σ) {x : Declaration} (m : Marker)
    {key : UnitKey} {known : World σ} (hasKey : x.ownerKey = .ok key)
    (added : w.addType x.owner = (.ok (), known)) :
    d.enlist position s x m w =
      let asked := (newDelegate d position s x m key).required d.context known
      (asked.1.map fun ks => { key := asked.2.1.unitKey, items := [asked.2.1], needs := ks },
        { d with made := d.made + 1 }, { s with entry := s.entry.add asked.2.1 },
        match asked.1 with
        | .error _ => asked.2.2
        | .ok _ => noteKey asked.2.1 asked.2.2) := by
  rw [enlist, hasKey]
  dsimp only
  rw [added]
  dsimp only
  rw [← newDelegate]
  cases ((newDelegate d position s x m key).required d.context known).1 <;> rfl

/-- A declaration that takes part is asked about. -/
theorem enlist_talks (d : Discovery) (position : Nat) (s : Station σ) (w : World σ)
    {x : Declaration} {m : Marker} {packages : List String} (findable : x.IsFindable packages)
    (marked : x.marker? s.entry.marker = some m) :
    ∃ q, Conversation position d s w [x] [q]
      ((d.enlist position s x m w).1.map fun u => [u], (d.enlist position s x m w).2) := by
  obtain ⟨key, hasKey⟩ := Declaration.ownerKey_ok findable.owner
  obtain ⟨k, found⟩ := UnitKey.ofValue_owner findable.owner findable.named
  obtain ⟨known, added⟩ : ∃ known, w.addType x.owner = (.ok (), known) := by
    rw [World.addType, TypeRegistry.addType, found]
    exact ⟨_, rfl⟩
  let q : Inquiry σ := ⟨newDelegate d position s x m key, known⟩
  have fresh : q.delegate.IsFresh position s.handler s.entry.marker x :=
    ⟨rfl, rfl, rfl, rfl, marked, hasKey, rfl, rfl⟩
  have concludes : Concludes d.context position s.handler s.entry.marker [x] [q] _ := .single fresh
  have begins : Converses d.context w [q] (q.reply d.context).2.2 := .ask added (.done _)
  obtain ⟨outcome, settled, speaks⟩ := required_inquiry fresh.unsettled d.context known
  rw [enlist_eq d position s m hasKey added]
  generalize (newDelegate d position s x m key).required d.context known = asked
    at outcome settled speaks ⊢
  obtain ⟨needs, y, next⟩ := asked
  dsimp only at outcome settled speaks ⊢
  subst settled
  rw [← outcome] at concludes
  refine ⟨q, ?_⟩
  cases needs with
  | error f => exact ⟨concludes, begins.trans speaks, rfl, rfl, rfl⟩
  | ok ks =>
      refine ⟨concludes, (begins.trans speaks).trans ?_, rfl, rfl, rfl⟩
      dsimp only
      rw [noteKey]
      split
      · exact .noted _ _ _
      · exact .done _

/-- A declaration is asked about when it takes part. -/
theorem build_talks (d : Discovery) (position : Nat) (s : Station σ) (w : World σ)
    {x : Declaration} {packages : List String} (findable : x.IsFindable packages)
    (marked : x.hasMarker s.entry.marker = true) :
    ∃ qs, Conversation position d s w ([x].filter (isTaken d.context s.entry.marker)) qs
      ((d.build position s x w).1.map Option.toList, (d.build position s x w).2) := by
  obtain ⟨m, isMarker⟩ := Option.isSome_iff_exists.1 marked
  obtain ⟨testOnly, test⟩ := Declaration.isTestOnly_ok findable.owner
  have taken : isTaken d.context s.entry.marker x = !(testOnly && !d.context.testMode) := by
    simp [isTaken, marked, isAdmitted, test]
  rw [build, isMarker]
  dsimp only
  rw [test]
  dsimp only
  cases leave : testOnly && !d.context.testMode with
  | true =>
      rw [if_pos rfl, List.filter_cons_of_neg (by simp [taken, leave])]
      cases x.text with
      | error f => exact ⟨[], .silent position d s (.done w)⟩
      | ok text => exact ⟨[], .silent position d s (.noted _ _ _)⟩
  | false =>
      rw [if_neg Bool.false_ne_true, List.filter_cons_of_pos (by simp [taken, leave])]
      obtain ⟨q, talk⟩ := enlist_talks d position s w findable isMarker
      refine ⟨[q], ?_⟩
      have one : ∀ r : Except Fault (WorkUnit (Delegate σ)),
          (r.map some).map Option.toList = r.map fun u => [u] := by
        intro r
        cases r <;> rfl
      rw [one]
      exact talk

theorem buildAll_talks (position : Nat) (d : Discovery) (s : Station σ) (w : World σ)
    {packages : List String} {decls : List Declaration}
    (findable : ∀ x ∈ decls, x.IsFindable packages)
    (marked : ∀ x ∈ decls, x.hasMarker s.entry.marker = true) :
    ∃ qs, Conversation position d s w (decls.filter (isTaken d.context s.entry.marker)) qs
      (buildAll position decls d s w) := by
  induction decls generalizing d s w with
  | nil => exact ⟨[], .silent position d s (.done w)⟩
  | cons x decls ih =>
      obtain ⟨qs, here⟩ := build_talks d position s w (findable x List.mem_cons_self)
        (marked x List.mem_cons_self)
      rw [buildAll, ← List.singleton_append, List.filter_append]
      generalize d.build position s x w = outcome at here ⊢
      obtain ⟨unit, mid, t, next⟩ := outcome
      cases unit with
      | error f => exact ⟨qs, here.error _⟩
      | ok unit =>
          have marker : t.entry.marker = s.entry.marker := here.marker
          obtain ⟨rs, rest⟩ := ih mid t next
            (fun y member => findable y (List.mem_cons_of_mem x member))
            fun y member => marker ▸ marked y (List.mem_cons_of_mem x member)
          have context : mid.context = d.context := here.context
          rw [context, marker] at rest
          exact ⟨qs ++ rs, here.append rest⟩

/-- The questions are about the declarations that become delegates, kind by kind. -/
theorem buildKinds_talks (position : Nat) (kinds : List ElementKind) (d : Discovery)
    (s : Station σ) (w : World σ) {decls : List Declaration} (fixed : d.scanner = .fixed decls)
    (findable : ∀ x ∈ decls, x.IsFindable d.context.packages) :
    ∃ qs, Conversation position d s w (chosen d.context s.entry.marker kinds decls) qs
      (buildKinds position kinds d s w) := by
  induction kinds generalizing d s w with
  | nil => exact ⟨[], .silent position d s (.done w)⟩
  | cons kind kinds ih =>
      obtain ⟨scanner, context, structural, made⟩ := d
      obtain rfl : scanner = .fixed decls := fixed
      obtain ⟨found, listed⟩ := Declaration.select_findable kind s.entry.marker findable
      have selected := select_spec listed
      rw [buildKinds, Scanner.query_fixed, chosen_cons, ← filter_isTaken_select, listed, ← selected]
      dsimp only
      have inside : ∀ x ∈ found, x ∈ decls ∧ x.hasMarker s.entry.marker = true := by
        intro x member
        rw [selected, List.mem_filter] at member
        exact ⟨member.1, by simp_all [isSelected]⟩
      obtain ⟨qs, here⟩ := buildAll_talks position ⟨.fixed decls, context, structural, made⟩ s
        (w.note []) (fun x member => findable x (inside x member).1)
        fun x member => (inside x member).2
      -- The answer of a fixed list brings no notes, but to note none is a step of its own.
      generalize buildAll position found ⟨.fixed decls, context, structural, made⟩ s (w.note []) =
        outcome at here ⊢
      obtain ⟨units, mid, t, next⟩ := outcome
      have begun : Conversation position ⟨.fixed decls, context, structural, made⟩ s w
          (found.filter (isTaken context s.entry.marker)) qs (units, mid, t, next) :=
        ⟨here.concludes, .note [] here.converses, here.station, here.scanner, here.context⟩
      cases units with
      | error f => exact ⟨qs, begun.error _⟩
      | ok units =>
          have marker : t.entry.marker = s.entry.marker := here.marker
          have context' : mid.context = context := here.context
          obtain ⟨rs, rest⟩ := ih mid t next here.scanner (context'.symm ▸ findable)
          rw [context', marker] at rest
          exact ⟨qs ++ rs, begun.append rest⟩

/-- **Discovery at a station is a conversation with its handler** about the declarations that
become delegates, once the targets of the marker type are known. -/
theorem discover_talks (d : Discovery) (position : Nat) (s : Station σ) (w : World σ)
    {decls : List Declaration} (fixed : d.scanner = .fixed decls)
    (findable : ∀ x ∈ decls, x.IsFindable d.context.packages) {targets : Targets}
    (asked : (Targets.ofType s.entry.marker).1 = .ok targets) :
    ∃ qs, Conversation position d s w (chosen d.context s.entry.marker targets.kinds decls) qs
      (d.discover position s w) := by
  rw [discover_eq asked, discoverAmong]
  generalize (Targets.ofType s.entry.marker).2 = notes
  generalize begun : (if targets.unknown.isEmpty then (d, w.note notes)
    else d.record (unknownTargets s.entry.marker targets.unknown) (w.note notes)) = start
  obtain ⟨mid, ready⟩ := start
  have same : mid.scanner = d.scanner ∧ mid.context = d.context ∧
      Converses d.context w [] ready := by
    split at begun
    · cases begun
      exact ⟨rfl, rfl, .noted _ _ _⟩
    · cases begun
      exact ⟨rfl, rfl, .note _ (.noted _ _ _)⟩
  obtain ⟨scanner, context, speaks⟩ := same
  obtain ⟨qs, talk⟩ := buildKinds_talks position targets.kinds mid s ready
    (scanner.trans fixed) (context.symm ▸ findable)
  rw [context] at talk
  dsimp only
  generalize buildKinds position targets.kinds mid s ready = outcome at talk ⊢
  obtain ⟨units, last, t, next⟩ := outcome
  obtain ⟨concludes, converses, station, scanner', context'⟩ := talk
  rw [context] at concludes converses station
  have before := speaks.trans converses
  refine ⟨qs, ?_⟩
  cases units with
  | error f =>
      exact ⟨concludes, before, station, scanner'.trans scanner, context'.trans context⟩
  | ok units =>
      refine ⟨concludes, ?_, station, scanner'.trans scanner, context'.trans context⟩
      rw [← List.append_nil qs]
      exact before.trans (.noted _ _ _)

end Discovery

end Marking
