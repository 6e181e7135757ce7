/-
# Marking.Proofs.Engine.Stations -- what one station sees of the work

The stages that do the work of a run change one station at a time.  Seen from a station, the
ordered pass is the calls of its own delegates (`station_settleAll`), and a round is one run
over its queue if it had work left, and nothing otherwise (`Round.elsewhere`, `Round.visited`).
-/
import Marking.Proofs.Engine.Ledger
import Marking.Proofs.Entry.Progress

set_option autoImplicit false

namespace Marking.Engine

open Entry (Retries)

variable {σ : Type} {queues : List (List (Delegate σ))} {e e' : Engine σ} {is : List Nat}
  {before cs : List (Call σ)} {b : Bool}

def callsAt (i : Nat) (cs : List (Call σ)) : List (Call σ) :=
  cs.filter fun c => c.work.entry == i

theorem callsAt_append (i : Nat) (cs ds : List (Call σ)) :
    callsAt i (cs ++ ds) = callsAt i cs ++ callsAt i ds :=
  List.filter_append _ _

theorem callsAt_own {i : Nat} (own : ∀ c ∈ cs, c.work.entry = i) : callsAt i cs = cs :=
  List.filter_eq_self.2 fun c member => beq_iff_eq.2 (own c member)

theorem callsAt_other {i j : Nat} (differ : j ≠ i) (other : ∀ c ∈ cs, c.work.entry = j) :
    callsAt i cs = [] :=
  List.filter_eq_nil_iff.2 fun c member same =>
    differ ((other c member).symm.trans (beq_iff_eq.1 same))

/-- The ordered pass settles at a station the calls of its delegates. -/
theorem station_settleAll (e : Engine σ) (cs : List (Call σ)) (i : Nat) :
    (e.settleAll cs).stations[i]? =
      e.stations[i]?.map fun s => { s with entry := s.entry.settleAll (callsAt i cs) } := by
  induction cs generalizing e with
  | nil => exact Option.map_id.symm ▸ rfl
  | cons c cs ih =>
      show ((e.settle c).settleAll cs).stations[i]? = _
      rw [ih, settle, station_mapEntry, Option.map_map]
      congr 1
      funext s
      by_cases here : c.work.entry = i
      · simp [callsAt, here, Entry.settleAll]
      · simp [callsAt, here]

theorem unfinished_nodup (e : Engine σ) : e.unfinished.Nodup :=
  List.nodup_range.filter _

theorem Round.length (round : Round is e cs e' b) : e'.stations.length = e.stations.length := by
  induction round with
  | done => rfl
  | absent _ _ ih => exact ih
  | station _ _ _ ih => exact ih.trans (length_mapEntry _ _ _)

/-- A round leaves the other stations as they are. -/
theorem Round.elsewhere (round : Round is e cs e' b) {i : Nat} (notHere : i ∉ is) :
    e'.stations[i]? = e.stations[i]? := by
  induction round with
  | done => rfl
  | absent _ _ ih => exact ih fun later => notHere (List.mem_cons_of_mem _ later)
  | @station j is e e' s mid cs rest b _ _ _ ih =>
      have differ : j ≠ i := fun same => notHere (same ▸ List.mem_cons_self)
      rw [ih fun later => notHere (List.mem_cons_of_mem _ later), station_mapEntry]
      simp [differ]

/-- The calls of a run over the queue of a station are of its delegates. -/
theorem Ledger.entry_of_retries (h : Ledger queues before e) (homes : Homes queues) {i : Nat}
    {s : Station σ} {mid : Entry (Delegate σ)} (there : e.stations[i]? = some s)
    (retries : Retries { s.entry with failures := [] } cs mid) : ∀ c ∈ cs, c.work.entry = i := by
  intro c member
  obtain ⟨q, found, nodup, begun⟩ := h.begun homes there
  have queued := retries.queued nodup begun c member
  exact homes.home i q found c.work (begun.mem_queue.1 queued).1

/-- A round calls no delegates of other stations. -/
theorem Round.silent (round : Round is e cs e' b) (homes : Homes queues)
    (h : Ledger queues before e) {i : Nat} (notHere : i ∉ is) : callsAt i cs = [] := by
  induction round generalizing before with
  | done => rfl
  | absent _ _ ih => exact ih h fun later => notHere (List.mem_cons_of_mem _ later)
  | @station j is e e' s mid cs rest b there retries _ ih =>
      have differ : j ≠ i := fun same => notHere (same ▸ List.mem_cons_self)
      have others := ih (h.retries homes there retries _).1 fun later =>
        notHere (List.mem_cons_of_mem _ later)
      rw [callsAt_append, others, List.append_nil]
      exact callsAt_other differ (h.entry_of_retries homes there retries)

/-- A round runs once over the queue of each of its stations. -/
theorem Round.visited (round : Round is e cs e' b) (homes : Homes queues)
    (h : Ledger queues before e) (nodup : is.Nodup) {i : Nat} (here : i ∈ is) {s : Station σ}
    (there : e.stations[i]? = some s) :
    ∃ mid : Entry (Delegate σ), Retries { s.entry with failures := [] } (callsAt i cs) mid ∧
      e'.stations[i]? = some { s with entry := Entry.concluded s.entry.queue.length mid } := by
  induction round generalizing before with
  | done => cases here
  | @absent j is e e' cs b nothing _ ih =>
      obtain ⟨-, rest⟩ := List.nodup_cons.1 nodup
      rcases List.mem_cons.1 here with rfl | later
      · rw [nothing] at there
        cases there
      · exact ih h rest later there
  | @station j is e e' t mid cs rest b found retries round ih =>
      obtain ⟨once, nodupRest⟩ := List.nodup_cons.1 nodup
      have ledger := (h.retries homes found retries t.entry.queue.length).1
      have entry := h.entry_of_retries homes found retries
      rw [callsAt_append]
      rcases List.mem_cons.1 here with rfl | later
      · rw [found] at there
        cases there
        refine ⟨mid, ?_, ?_⟩
        · rw [callsAt_own entry, round.silent homes ledger once, List.append_nil]
          exact retries
        · rw [round.elsewhere once, station_mapEntry, found]
          simp
      · have differ : j ≠ i := fun same => once (same ▸ later)
        rw [callsAt_other differ entry, List.nil_append]
        refine ih ledger nodupRest later ?_
        rw [station_mapEntry, there]
        simp [differ]

end Marking.Engine
