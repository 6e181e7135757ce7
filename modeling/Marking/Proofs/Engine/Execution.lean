/-
# Marking.Proofs.Engine.Execution -- the work of a run as calls

What the executing stages do to an engine is done by calls, each settled at the station of its
delegate.  The ordered pass makes the planned calls in turn (`execute_spec`); a round of retries
runs the retry loop at each of its stations (`Round`); and the rounds go on as long as one makes
progress, something is left, and the limit is not reached (`Rounds`).
-/
import Marking.Engine
import Marking.Proofs.Entry.Calls

set_option autoImplicit false

namespace Marking.Engine

variable {σ τ : Type}

abbrev Call (σ : Type) := Entry.Call (Delegate σ)

def mapEntry (e : Engine σ) (i : Nat) (f : Entry (Delegate σ) → Entry (Delegate σ)) : Engine σ :=
  { e with stations := e.stations.modify i fun s => { s with entry := f s.entry } }

def settle (e : Engine σ) (c : Call σ) : Engine σ :=
  e.mapEntry c.work.entry fun entry => entry.settle c

def settleAll (e : Engine σ) (cs : List (Call σ)) : Engine σ := cs.foldl settle e

theorem length_mapEntry (e : Engine σ) (i : Nat) (f : Entry (Delegate σ) → Entry (Delegate σ)) :
    (e.mapEntry i f).stations.length = e.stations.length :=
  List.length_modify _ _ _

theorem station_mapEntry (e : Engine σ) (i : Nat) (f : Entry (Delegate σ) → Entry (Delegate σ))
    (j : Nat) : (e.mapEntry i f).stations[j]? =
      e.stations[j]?.map fun s => if i = j then { s with entry := f s.entry } else s := by
  rw [mapEntry, List.getElem?_modify]
  by_cases same : i = j
  · simp [same]
  · simp [same]

theorem set_eq_mapEntry {e : Engine σ} {i : Nat} {s : Station σ} (there : e.stations[i]? = some s)
    (f : Entry (Delegate σ) → Entry (Delegate σ)) :
    { e with stations := e.stations.set i { s with entry := f s.entry } } = e.mapEntry i f := by
  have stations : e.stations.set i { s with entry := f s.entry } =
      e.stations.modify i fun s => { s with entry := f s.entry } := by
    refine List.ext_getElem? fun j => ?_
    rw [List.getElem?_set, List.getElem?_modify]
    by_cases same : i = j
    · subst same
      obtain ⟨inside, is⟩ := List.getElem?_eq_some_iff.1 there
      simp [inside, is]
    · simp [same]
  rw [stations, mapEntry]

/-! ## The ordered pass -/

variable {process : Entry.Process τ (Delegate σ)} {log : Entry.Log τ (Delegate σ)}
  {e e' : Engine σ} {w w' : World τ}

theorem attempt_spec (h : Entry.Logs process log) {d : Delegate σ}
    (home : d.entry < e.stations.length) (ok : attempt process e d w = (.ok (), e', w')) :
    ∃ c : Call σ, c.work = d ∧ Entry.Logged log w [c] w' ∧ e' = e.settle c := by
  have there := List.getElem?_eq_getElem home
  unfold attempt at ok
  rw [there] at ok
  cases tried : e.stations[d.entry].entry.attempt process d w with
  | mk result rest =>
      obtain ⟨entry, next⟩ := rest
      simp only [tried] at ok
      cases result with
      | error f => cases ok
      | ok b =>
          obtain ⟨c, isWork, -, logged, rfl⟩ := Entry.attempt_spec h tried
          cases ok
          refine ⟨c, isWork, logged, ?_⟩
          rw [settle, isWork]
          exact set_eq_mapEntry there fun entry => entry.settle c

/-- **The ordered pass makes the planned calls in turn.** -/
theorem execute_spec (h : Entry.Logs process log) {ds : List (Delegate σ)}
    (home : ∀ d ∈ ds, d.entry < e.stations.length)
    (ok : execute process ds e w = (.ok (), e', w')) :
    ∃ cs : List (Call σ), cs.map Entry.Call.work = ds ∧ Entry.Logged log w cs w' ∧
      e' = e.settleAll cs := by
  induction ds generalizing e w with
  | nil =>
      cases ok
      exact ⟨[], rfl, .none log _, rfl⟩
  | cons d ds ih =>
      rw [execute] at ok
      cases first : attempt process e d w with
      | mk result rest =>
          obtain ⟨mid, next⟩ := rest
          rw [first] at ok
          cases result with
          | error f => cases ok
          | ok _ =>
              obtain ⟨c, isWork, logged, rfl⟩ := attempt_spec h (home d List.mem_cons_self) first
              have homeRest : ∀ x ∈ ds, x.entry < (e.settle c).stations.length := by
                intro x member
                rw [settle, length_mapEntry]
                exact home x (List.mem_cons_of_mem d member)
              obtain ⟨cs, works, later, rfl⟩ := ih homeRest ok
              refine ⟨c :: cs, ?_, logged.trans later, rfl⟩
              rw [List.map_cons, isWork, works]

/-! ## Rounds of retries -/

/-- One round over the given stations; true says that a queue got shorter. -/
inductive Round : List Nat → Engine σ → List (Call σ) → Engine σ → Bool → Prop
  | done {e : Engine σ} : Round [] e [] e false
  | absent {i : Nat} {is : List Nat} {e e' : Engine σ} {cs : List (Call σ)} {b : Bool} :
      e.stations[i]? = none → Round is e cs e' b → Round (i :: is) e cs e' b
  | station {i : Nat} {is : List Nat} {e e' : Engine σ} {s : Station σ}
      {mid : Entry (Delegate σ)} {cs rest : List (Call σ)} {b : Bool} :
      e.stations[i]? = some s → Entry.Retries { s.entry with failures := [] } cs mid →
      Round is (e.mapEntry i fun _ => Entry.concluded s.entry.queue.length mid) rest e' b →
      Round (i :: is) e (cs ++ rest) e' (decide (mid.queue.length < s.entry.queue.length) || b)

/-- Rounds up to a limit, and their number. -/
inductive Rounds : Nat → Engine σ → List (Call σ) → Engine σ → Nat → Prop
  | out {e : Engine σ} : Rounds 0 e [] e 0
  | finished {limit : Nat} {e : Engine σ} : e.unfinished = [] → Rounds (limit + 1) e [] e 0
  | stalled {limit : Nat} {e e' : Engine σ} {cs : List (Call σ)} : e.unfinished ≠ [] →
      Round e.unfinished e cs e' false → Rounds (limit + 1) e cs e' 1
  | again {limit n : Nat} {e mid e' : Engine σ} {cs rest : List (Call σ)} : e.unfinished ≠ [] →
      Round e.unfinished e cs mid true → Rounds limit mid rest e' n →
      Rounds (limit + 1) e (cs ++ rest) e' (n + 1)

theorem retryAt_cons_ok {i : Nat} {is : List Nat} {s : Station σ} {b : Bool}
    (there : e.stations[i]? = some s) (ok : retryAt process (i :: is) e w = (.ok b, e', w')) :
    ∃ (done : Bool) (entry : Entry (Delegate σ)) (next : World τ) (more : Bool),
      s.entry.processAll process s.entry.queue.length w = (.ok done, entry, next) ∧
      retryAt process is { e with stations := e.stations.set i { s with entry } } next =
        (.ok more, e', w') ∧
      b = (decide (0 < entry.removed) || more) := by
  rw [retryAt, there] at ok
  cases ran : s.entry.processAll process s.entry.queue.length w with
  | mk result rest =>
      obtain ⟨entry, next⟩ := rest
      simp only [ran] at ok
      cases result with
      | error f => cases ok
      | ok done =>
          cases others : retryAt process is
              { e with stations := e.stations.set i { s with entry } } next with
          | mk result rest =>
              simp only [others] at ok
              cases result with
              | error f => cases ok
              | ok more =>
                  cases ok
                  exact ⟨done, entry, next, more, rfl, others, rfl⟩

theorem retryAt_spec (h : Entry.Logs process log) {is : List Nat} {b : Bool}
    (ok : retryAt process is e w = (.ok b, e', w')) :
    ∃ cs : List (Call σ), Entry.Logged log w cs w' ∧ Round is e cs e' b := by
  induction is generalizing e e' w w' b with
  | nil =>
      cases ok
      exact ⟨[], .none log _, .done⟩
  | cons i is ih =>
      cases there : e.stations[i]? with
      | none =>
          rw [retryAt, there] at ok
          obtain ⟨cs, logged, round⟩ := ih ok
          exact ⟨cs, logged, .absent there round⟩
      | some s =>
          obtain ⟨done, entry, next, more, ran, others, rfl⟩ := retryAt_cons_ok there ok
          obtain ⟨cs, mid, logged, retries, rfl⟩ := Entry.processAll_spec h ran
          rw [set_eq_mapEntry there fun _ => Entry.concluded s.entry.queue.length mid] at others
          obtain ⟨later, loggedLater, round⟩ := ih others
          have progress : decide (0 < (Entry.concluded s.entry.queue.length mid).removed) =
              decide (mid.queue.length < s.entry.queue.length) := by
            rw [decide_eq_decide, Entry.removed_concluded]
            omega
          refine ⟨cs ++ later, logged.trans loggedLater, ?_⟩
          rw [progress]
          exact .station there retries round

/-- **Retrying is rounds of retries.** -/
theorem retry_spec (h : Entry.Logs process log) {limit rounds total : Nat}
    (ok : retry process limit rounds e w = (.ok total, e', w')) :
    ∃ (cs : List (Call σ)) (n : Nat), Entry.Logged log w cs w' ∧ Rounds limit e cs e' n ∧
      total = rounds + n := by
  induction limit generalizing rounds e w with
  | zero =>
      cases ok
      exact ⟨[], 0, .none log _, .out, rfl⟩
  | succ limit ih =>
      rw [retry] at ok
      cases left : e.unfinished with
      | nil =>
          rw [left] at ok
          cases ok
          exact ⟨[], 0, .none log _, .finished left, rfl⟩
      | cons i is =>
          have some : e.unfinished ≠ [] := by simp [left]
          rw [left] at ok
          cases ran : retryAt process (i :: is) e w with
          | mk result rest =>
              obtain ⟨mid, next⟩ := rest
              simp only [ran] at ok
              cases result with
              | error f => cases ok
              | ok progress =>
                  obtain ⟨cs, logged, round⟩ := retryAt_spec h ran
                  rw [← left] at round
                  cases progress with
                  | false =>
                      cases ok
                      exact ⟨cs, 1, logged.note h _, .stalled some round, rfl⟩
                  | true =>
                      simp only [if_true] at ok
                      obtain ⟨later, n, loggedLater, rest, sum⟩ := ih ok
                      exact ⟨cs ++ later, n + 1, (logged.note h _).trans loggedLater,
                        .again some round rest, by omega⟩

end Marking.Engine
