/-
# Marking.Proofs.Engine.Accounting -- what the views by name tell of the work left

The entries of a report list all that was never done.  Its views are dictionaries by the names of
the markers, and so is the fault that is raised from them, while markers are told apart by more
than their names: of two entries with work left whose markers share a name, the views show the
later one alone (`Sample.namesake_hidden`).  What the views count is all of the work left exactly
when that does not happen (`Accounted`).
-/
import Marking.Proofs.Engine.Conservation
import Marking.Proofs.Engine.Truthfulness
import Marking.Proofs.Report.Views

set_option autoImplicit false

namespace Marking

variable {σ : Type}

/-- The delegates that no call of the run did the work of. -/
def Run.undone (r : Run σ) : List (Delegate σ) := r.discovered.filter (HandlerCall.undone r.calls)

/-- What a run that returns the report tells of the work that was never done. -/
structure Accounted (r : Run σ) (report : Report) : Prop where
  /-- The entries list all of it. -/
  listed : (report.entries.map fun s => s.pending.length).sum = r.undone.length
  /-- When there is any, the views are raised as a fault. -/
  raised : report.incompleteness =
    if r.undone.isEmpty then none else some (.incomplete report.failures report.pending)
  /-- The fault counts no more of it than there is. -/
  count_le : Fault.pendingCount report.pending ≤ r.undone.length
  /-- It counts all exactly when the markers with work left have different names. -/
  count_eq_iff : Fault.pendingCount report.pending = r.undone.length ↔
    (report.unfinished.map EntrySummary.marker).Nodup
  /-- Under every name the last entry with work left is shown, with its keys and its failures. -/
  shown_pending : ∀ p, p ∈ report.pending ↔
    ∃ s, LastOf EntrySummary.marker report.unfinished s ∧ p = (s.marker, s.pending)
  shown_failures : ∀ p, p ∈ report.failures ↔
    ∃ s, LastOf EntrySummary.marker report.unfinished s ∧ p = (s.marker, s.errors)
  /-- With different names all of their failures are shown. -/
  failures_complete : (report.unfinished.map EntrySummary.marker).Nodup →
    ∀ s ∈ report.unfinished, (s.marker, s.errors) ∈ report.failures

theorem Performed.undone_eq {r : Run σ} {report : Report} {plan : Plan σ} {e e' : Engine σ}
    {first later : List (HandlerCall σ)} {n : Nat}
    (h : Performed r report plan e e' first later n) :
    r.undone = e'.stations.flatMap fun s => s.entry.queue := by
  rw [h.ledger.1.queues_eq]
  exact List.filter_congr fun x _ => HandlerCall.undone_eq r.calls x

/-- **The entries of a report account for all of the work left, and its views for the part whose
markers are not hidden by later ones.** -/
theorem Run.Returns.accounted {r : Run σ} {report : Report} (returns : r.Returns report) :
    Accounted r report := by
  obtain ⟨plan, e, e', first, later, n, h⟩ := returns.performed
  have listed : (report.entries.map fun s => s.pending.length).sum = r.undone.length := by
    rw [h.undone_eq, h.entries_eq, List.map_map, List.length_flatMap]
    congr 1
    refine List.map_congr_left fun s _ => ?_
    exact List.length_map _
  obtain ⟨bound, complete⟩ := report.pendingCount_le
  rw [listed] at bound complete
  refine
    { listed, raised := ?_, count_le := bound, count_eq_iff := complete
      shown_pending := fun p => Report.mem_pending_iff
      shown_failures := fun p => Report.mem_failures_iff
      failures_complete := fun distinct s member => ?_ }
  · have nothing : report.succeeded = r.undone.isEmpty := by
      rw [Bool.eq_iff_iff, h.report_succeeded_iff, List.isEmpty_iff, h.undone_eq,
        List.flatMap_eq_nil_iff]
    rw [Report.incompleteness, nothing]
  · rw [Report.failures, byName_of_distinct (by rwa [Report.names_unfinished])]
    exact List.mem_map.2 ⟨s, member, rfl⟩

namespace Sample

/-- Another type of markers for types, which shares its name with `made`. -/
def namesake : MarkerType := .derive .root 3 "Made" (some "other") (some (.kind .type))

/-- A run over two types that wait in vain, each for the handler of its own marker. -/
def namesakes : Run Bool where
  engine :=
    { registry :=
        { handlers := [(made, handler false), (namesake, handler false)]
          rules := [(made, []), (namesake, [])] } }
  scanner := .fixed
    [declaration "top", { declaration "side" with markers := [.mk namesake []] }]
  context := {}
  world := { own := false }

/-- The earlier of two entries whose markers share a name is counted by no view, and its failure
is shown by none. -/
theorem namesake_hidden :
    ∃ report, namesakes.Returns report ∧ namesakes.undone.length = 2 ∧
      Fault.pendingCount report.pending = 1 ∧
      ∃ s ∈ report.unfinished, ∃ f ∈ s.errors, ∀ p ∈ report.failures, f ∉ p.2 := by
  have hides : namesakes.passes (fun report => decide (Fault.pendingCount report.pending = 1 ∧
      ∃ s ∈ report.unfinished, ∃ f ∈ s.errors, ∀ p ∈ report.failures, f ∉ p.2)) = true := by
    decide +kernel
  obtain ⟨report, returns, hidden⟩ := Run.returns_of_passes hides
  obtain ⟨counted, failure⟩ := of_decide_eq_true hidden
  exact ⟨report, returns, by decide +kernel, counted, failure⟩

/-- Both of them are listed by the entries. -/
theorem namesakes_listed :
    ∃ report : Report, report.rounds = 1 ∧ Accounted namesakes report := by
  have once : namesakes.passes (fun report => report.rounds == 1) = true := by decide +kernel
  obtain ⟨report, returns, rounds⟩ := Run.returns_of_passes once
  exact ⟨report, beq_iff_eq.1 rounds, returns.accounted⟩

end Sample

end Marking
