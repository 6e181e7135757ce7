/-
# Marking.Proofs.Engine.Ledger -- the calls of a run account for all of its work

`Ledger queues cs e` is the invariant of the executing stages: the stations of `e` began with
`queues`, `cs` is every call so far, and every station's entry agrees with them (`Tallied`).
The ordered pass and the rounds keep it, and no call is on work that is done (`Fresh`).

`left` is the work that no call finished.  A round with progress shortens it, so rounds end;
`Rounds.ends` says why they do: nothing is left, or the limit is reached, or all that is left
was called in a last round in which nothing succeeded.
-/
import Mathlib.Data.List.Forall2
import Marking.Proofs.Engine.Execution
import Marking.Proofs.Entry.Tally

set_option autoImplicit false

namespace Marking.Engine

open Entry (Fresh Tallied Retries isDone)

variable {σ : Type}

/-! ## Work and where it is queued -/

/-- Serial numbers tell the delegates of the queues apart, and each knows its station. -/
structure Homes (queues : List (List (Delegate σ))) : Prop where
  nodup : (queues.flatten.map Delegate.serial).Nodup
  home : ∀ (i : Nat) (q : List (Delegate σ)), queues[i]? = some q → ∀ d ∈ q, d.entry = i

def left (queues : List (List (Delegate σ))) (cs : List (Call σ)) : List (Delegate σ) :=
  queues.flatten.filter fun d => !isDone cs d

variable {queues : List (List (Delegate σ))} {before cs : List (Call σ)} {e e' : Engine σ}
  {is : List Nat} {b : Bool}

theorem mem_left {d : Delegate σ} :
    d ∈ left queues cs ↔ d ∈ queues.flatten ∧ isDone cs d = false := by
  rw [left, List.mem_filter, Bool.not_eq_true']

theorem mem_flatten {i : Nat} {q : List (Delegate σ)} (found : queues[i]? = some q)
    {d : Delegate σ} (member : d ∈ q) : d ∈ queues.flatten :=
  List.mem_flatten.2 ⟨q, List.mem_of_getElem? found, member⟩

theorem Homes.eq_of_serial (homes : Homes queues) {c d : Delegate σ} (cMember : c ∈ queues.flatten)
    (dMember : d ∈ queues.flatten) (same : c.serial = d.serial) : c = d :=
  List.inj_on_of_nodup_map homes.nodup cMember dMember same

theorem Homes.nodup_queue (homes : Homes queues) {q : List (Delegate σ)} (member : q ∈ queues) :
    (q.map Delegate.serial).Nodup :=
  homes.nodup.sublist ((List.sublist_flatten_of_mem member).map _)

theorem Homes.queue_of_mem (homes : Homes queues) {d : Delegate σ} (member : d ∈ queues.flatten) :
    ∃ q, queues[d.entry]? = some q ∧ d ∈ q := by
  obtain ⟨q, inQueues, inQ⟩ := List.mem_flatten.1 member
  obtain ⟨i, found⟩ := List.mem_iff_getElem?.1 inQueues
  rw [homes.home i q found d inQ]
  exact ⟨q, found, inQ⟩

/-! ## The ledger -/

/-- The stations began with the queues; these are the calls since. -/
structure Ledger (queues : List (List (Delegate σ))) (cs : List (Call σ)) (e : Engine σ) : Prop where
  length : e.stations.length = queues.length
  tallied : ∀ (i : Nat) (s : Station σ) (q : List (Delegate σ)), e.stations[i]? = some s →
    queues[i]? = some q → Tallied q cs s.entry

theorem Ledger.queue_at (h : Ledger queues cs e) {i : Nat} {s : Station σ}
    (there : e.stations[i]? = some s) : ∃ q, queues[i]? = some q ∧ Tallied q cs s.entry := by
  obtain ⟨inside, -⟩ := List.getElem?_eq_some_iff.1 there
  rw [h.length] at inside
  exact ⟨_, List.getElem?_eq_getElem inside, h.tallied i s _ there (List.getElem?_eq_getElem inside)⟩

theorem Ledger.station_at (h : Ledger queues cs e) {i : Nat} {q : List (Delegate σ)}
    (found : queues[i]? = some q) : ∃ s, e.stations[i]? = some s ∧ Tallied q cs s.entry := by
  obtain ⟨inside, -⟩ := List.getElem?_eq_some_iff.1 found
  rw [← h.length] at inside
  exact ⟨_, List.getElem?_eq_getElem inside, h.tallied i _ q (List.getElem?_eq_getElem inside) found⟩

/-- What holds of every station and the queue that it began with. -/
theorem Ledger.forall₂ (h : Ledger queues cs e) {R : Station σ → List (Delegate σ) → Prop}
    (each : ∀ (i : Nat) (s : Station σ) (q : List (Delegate σ)), e.stations[i]? = some s →
      queues[i]? = some q → R s q) : List.Forall₂ R e.stations queues := by
  refine List.forall₂_iff_get.2 ⟨h.length, fun i inside inQueues => ?_⟩
  exact each i _ _ (List.getElem?_eq_getElem inside) (List.getElem?_eq_getElem inQueues)

/-- What is queued anywhere is what is left. -/
theorem Ledger.mem_left_iff (h : Ledger queues cs e) (homes : Homes queues) {d : Delegate σ} :
    d ∈ left queues cs ↔
      ∃ (i : Nat) (s : Station σ), e.stations[i]? = some s ∧ d ∈ s.entry.queue := by
  rw [mem_left]
  constructor
  · rintro ⟨member, notDone⟩
    obtain ⟨q, found, inQ⟩ := homes.queue_of_mem member
    obtain ⟨s, there, tallied⟩ := h.station_at found
    exact ⟨d.entry, s, there, tallied.mem_queue.2 ⟨inQ, notDone⟩⟩
  · rintro ⟨i, s, there, queued⟩
    obtain ⟨q, found, tallied⟩ := h.queue_at there
    obtain ⟨inQ, notDone⟩ := tallied.mem_queue.1 queued
    exact ⟨mem_flatten found inQ, notDone⟩

/-- The queues of the stations together are what is left. -/
theorem Ledger.queues_eq (h : Ledger queues cs e) :
    (e.stations.flatMap fun s => s.entry.queue) = left queues cs := by
  have parts : e.stations.map (fun s => s.entry.queue) =
      queues.map fun q => q.filter fun d => !isDone cs d := by
    refine List.ext_getElem (by simp [h.length]) fun i inside _ => ?_
    rw [List.length_map] at inside
    have there := List.getElem?_eq_getElem inside
    have found := List.getElem?_eq_getElem (h.length ▸ inside)
    rw [List.getElem_map, List.getElem_map]
    exact (h.tallied i _ _ there found).queue_eq
  rw [List.flatMap_def, parts, left, List.filter_flatten]

/-- A change to one entry that settles calls of its queue keeps the ledger. -/
theorem Ledger.mapEntry (h : Ledger queues before e) (homes : Homes queues) {i : Nat}
    {s : Station σ} (there : e.stations[i]? = some s) {f : Entry (Delegate σ) → Entry (Delegate σ)}
    (own : ∀ q, queues[i]? = some q → Tallied q (before ++ cs) (f s.entry))
    (queued : ∀ c ∈ cs, c.work ∈ s.entry.queue) : Ledger queues (before ++ cs) (e.mapEntry i f) where
  length := (length_mapEntry e i f).trans h.length
  tallied j t q found inQueues := by
    rw [station_mapEntry] at found
    obtain ⟨old, oldFound, rfl⟩ := Option.map_eq_some_iff.1 found
    by_cases same : i = j
    · subst same
      rw [there] at oldFound
      cases oldFound
      rw [if_pos rfl]
      exact own q inQueues
    · rw [if_neg same]
      refine (h.tallied j old q oldFound inQueues).others fun c member d inQ sameSerial => same ?_
      obtain ⟨p, pFound, tallied⟩ := h.queue_at there
      have inP : c.work ∈ p := (tallied.mem_queue.1 (queued c member)).1
      have equal : c.work = d :=
        homes.eq_of_serial (mem_flatten pFound inP) (mem_flatten inQueues inQ) sameSerial
      rw [← homes.home i p pFound c.work inP, equal]
      exact homes.home j q inQueues d inQ

theorem Ledger.settle (h : Ledger queues before e) (homes : Homes queues) {c : Call σ}
    (pending : c.work ∈ left queues before) : Ledger queues (before ++ [c]) (e.settle c) := by
  obtain ⟨member, notDone⟩ := mem_left.1 pending
  obtain ⟨q, found, inQ⟩ := homes.queue_of_mem member
  obtain ⟨s, there, tallied⟩ := h.station_at found
  have queued : c.work ∈ s.entry.queue := tallied.mem_queue.2 ⟨inQ, notDone⟩
  refine h.mapEntry homes there (fun p pFound => ?_) fun d isCall => ?_
  · exact (h.tallied _ s p there pFound).settle
      (homes.nodup_queue (List.mem_of_getElem? pFound)) queued
  · rw [List.mem_singleton.1 isCall]
    exact queued

/-- **Calls of distinct work that is left keep the ledger and are fresh.** -/
theorem Ledger.settleAll (h : Ledger queues before e) (homes : Homes queues)
    (distinct : (cs.map fun c => c.work.serial).Nodup)
    (pending : ∀ c ∈ cs, c.work ∈ left queues before) :
    Ledger queues (before ++ cs) (e.settleAll cs) ∧ Fresh before cs := by
  induction cs generalizing before e with
  | nil => exact ⟨(List.append_nil before).symm ▸ h, trivial⟩
  | cons c cs ih =>
      obtain ⟨notLater, rest⟩ := List.nodup_cons.1 distinct
      have head := pending c List.mem_cons_self
      obtain ⟨ledger, fresh⟩ := ih (h.settle homes head) rest fun d member => by
        obtain ⟨old, notDone⟩ := mem_left.1 (pending d (List.mem_cons_of_mem c member))
        refine mem_left.2 ⟨old, ?_⟩
        have differ : Work.serial c.work ≠ Work.serial d.work := fun same =>
          notLater (List.mem_map.2 ⟨d, member, same.symm⟩)
        rw [Entry.isDone_append, notDone]
        simp [isDone, differ]
      rw [List.append_assoc, List.singleton_append] at ledger
      exact ⟨ledger, (mem_left.1 head).2, fresh⟩

/-! ## One round -/

/-- A station that begins to retry agrees with the ledger. -/
theorem Ledger.begun (h : Ledger queues before e) (homes : Homes queues) {i : Nat}
    {s : Station σ} (there : e.stations[i]? = some s) :
    ∃ q, queues[i]? = some q ∧ (q.map Delegate.serial).Nodup ∧
      Tallied q before { s.entry with failures := [] } := by
  obtain ⟨q, found, tallied⟩ := h.queue_at there
  exact ⟨q, found, homes.nodup_queue (List.mem_of_getElem? found), tallied.congr rfl rfl⟩

theorem Ledger.retries (h : Ledger queues before e) (homes : Homes queues) {i : Nat}
    {s : Station σ} {mid : Entry (Delegate σ)} (there : e.stations[i]? = some s)
    (retries : Retries { s.entry with failures := [] } cs mid) (initial : Nat) :
    Ledger queues (before ++ cs) (e.mapEntry i fun _ => Entry.concluded initial mid) ∧
      Fresh before cs := by
  obtain ⟨q, found, nodup, begun⟩ := h.begun homes there
  obtain ⟨final, fresh⟩ := retries.tallied nodup begun
  refine ⟨h.mapEntry homes there (fun p pFound => ?_) (retries.queued nodup begun), fresh⟩
  rw [found] at pFound
  cases pFound
  exact final.congr rfl rfl

theorem Round.ledger (round : Round is e cs e' b) (homes : Homes queues)
    (h : Ledger queues before e) : Ledger queues (before ++ cs) e' ∧ Fresh before cs := by
  induction round generalizing before with
  | done => exact ⟨(List.append_nil before).symm ▸ h, trivial⟩
  | absent _ _ ih => exact ih h
  | station there retries _ ih =>
      obtain ⟨mid, fresh⟩ := h.retries homes there retries _
      obtain ⟨final, freshRest⟩ := ih mid
      rw [List.append_assoc] at final
      exact ⟨final, fresh.append freshRest⟩

/-- A round calls work of the queues only. -/
theorem Round.within (round : Round is e cs e' b) (homes : Homes queues)
    (h : Ledger queues before e) : ∀ c ∈ cs, c.work ∈ queues.flatten := by
  induction round generalizing before with
  | done => exact fun c member => nomatch member
  | absent _ _ ih => exact ih h
  | station there retries _ ih =>
      intro c member
      rcases List.mem_append.1 member with here | later
      · obtain ⟨q, found, nodup, begun⟩ := h.begun homes there
        have queued := retries.queued nodup begun c here
        exact mem_flatten found (begun.mem_queue.1 queued).1
      · exact ih (h.retries homes there retries _).1 c later

/-- What is left only loses members. -/
theorem left_sublist (queues : List (List (Delegate σ))) (before cs : List (Call σ)) :
    (left queues (before ++ cs)).Sublist (left queues before) := by
  refine List.monotone_filter_right _ fun d notDone => ?_
  rw [Entry.isDone_append, Bool.not_or, Bool.and_eq_true] at notDone
  exact notDone.1

/-- A success of work that was left leaves less. -/
theorem length_left_lt {c : Call σ} (member : c ∈ cs) (succeeded : c.succeeded = true)
    (pending : c.work ∈ left queues before) :
    (left queues (before ++ cs)).length < (left queues before).length := by
  have sub := left_sublist queues before cs
  refine Nat.lt_of_le_of_ne sub.length_le fun same => ?_
  rw [← sub.eq_of_length same] at pending
  have notDone := (mem_left.1 pending).2
  rw [Entry.isDone_append, Bool.or_eq_false_iff] at notDone
  have done := Entry.isDone_iff.2 ⟨c, member, succeeded, rfl⟩
  rw [notDone.2] at done
  cases done

/-- A round with progress leaves less. -/
theorem Round.progress (round : Round is e cs e' true) (homes : Homes queues)
    (h : Ledger queues before e) :
    (left queues (before ++ cs)).length < (left queues before).length := by
  generalize moved : true = b at round
  induction round generalizing before with
  | done => cases moved
  | absent _ _ ih => exact ih h moved
  | @station i is e e' s mid cs rest b there retries _ ih =>
      obtain ⟨ledger, -⟩ := h.retries homes there retries s.entry.queue.length
      have less := (left_sublist queues (before ++ cs) rest).length_le
      rw [← List.append_assoc]
      by_cases shorter : mid.queue.length < s.entry.queue.length
      · obtain ⟨q, found, nodup, begun⟩ := h.begun homes there
        obtain ⟨final, -⟩ := retries.tallied nodup begun
        -- A queue gets shorter by a success only.
        obtain ⟨c, member, succeeded⟩ : ∃ c ∈ cs, c.succeeded = true := by
          by_contra none
          have failed : ∀ c ∈ cs, c.succeeded = false := fun c member => by
            rw [Bool.eq_false_iff]
            exact fun succeeded => none ⟨c, member, succeeded⟩
          have same : mid.queue = s.entry.queue := by
            rw [final.queue_eq]
            refine Eq.trans ?_ begun.queue_eq.symm
            refine List.filter_congr fun d _ => ?_
            rw [Entry.isDone_append, Entry.isDone_of_failed failed, Bool.or_false]
          rw [same] at shorter
          exact Nat.lt_irrefl _ shorter
        have queued := retries.queued nodup begun c member
        have pending := (h.mem_left_iff homes).2 ⟨_, s, there, queued⟩
        exact Nat.lt_of_le_of_lt less (length_left_lt member succeeded pending)
      · rw [decide_eq_false shorter, Bool.false_or] at moved
        have rest := ih ledger moved
        exact rest.trans_le (left_sublist queues before cs).length_le

/-- The queues of the stations stay as they are when one entry keeps its queue. -/
theorem queue_mapEntry {i : Nat} {s : Station σ} (there : e.stations[i]? = some s)
    (entry : Entry (Delegate σ)) (same : entry.queue = s.entry.queue) {j : Nat} {t : Station σ}
    (found : e.stations[j]? = some t) :
    ∃ t', (e.mapEntry i fun _ => entry).stations[j]? = some t' ∧ t'.entry.queue = t.entry.queue := by
  rw [station_mapEntry, found]
  refine ⟨_, rfl, ?_⟩
  by_cases here : i = j
  · subst here
    rw [there] at found
    cases found
    show (if i = i then { s with entry := entry } else s).entry.queue = s.entry.queue
    rw [if_pos rfl]
    exact same
  · show (if i = j then { t with entry := entry } else t).entry.queue = t.entry.queue
    rw [if_neg here]

/-- In a round without progress everything queued at its stations is called and fails. -/
theorem Round.stalled (round : Round is e cs e' false) (homes : Homes queues)
    (h : Ledger queues before e) :
    (∀ c ∈ cs, c.succeeded = false) ∧
      ∀ i ∈ is, ∀ s, e.stations[i]? = some s → ∀ d ∈ s.entry.queue, d ∈ cs.map Entry.Call.work := by
  obtain ⟨b, still⟩ : ∃ b, b = false := ⟨false, rfl⟩
  rw [← still] at round
  induction round generalizing before with
  | done => exact ⟨fun c member => (nomatch member), fun i member => nomatch member⟩
  | @absent i is e e' cs b nothing _ ih =>
      obtain ⟨failed, called⟩ := ih h still
      refine ⟨failed, fun j member s found => ?_⟩
      rcases List.mem_cons.1 member with rfl | later
      · rw [nothing] at found
        cases found
      · exact called j later s found
  | @station i is e e' s mid cs rest b there retries _ ih =>
      obtain ⟨notShorter, restStill⟩ := Bool.or_eq_false_iff.1 still
      have long := Nat.le_of_not_lt (of_decide_eq_false notShorter)
      obtain ⟨q, found, nodup, begun⟩ := h.begun homes there
      obtain ⟨works, failed, kept⟩ := retries.still nodup begun long
      obtain ⟨ledger, -⟩ := h.retries homes there retries s.entry.queue.length
      obtain ⟨failedRest, called⟩ := ih ledger restStill
      refine ⟨fun c member => ?_, fun j member t tFound d queued => ?_⟩
      · rcases List.mem_append.1 member with first | later
        · exact failed c first
        · exact failedRest c later
      · rw [List.map_append, List.mem_append]
        rcases List.mem_cons.1 member with rfl | later
        · rw [there] at tFound
          cases tFound
          exact Or.inl (works ▸ queued)
        · obtain ⟨t', t'Found, sameQueue⟩ :=
            queue_mapEntry there (Entry.concluded s.entry.queue.length mid) kept tFound
          exact Or.inr (called j later t' t'Found d (sameQueue ▸ queued))

/-! ## Rounds -/

theorem mem_unfinished {i : Nat} :
    i ∈ e.unfinished ↔ ∃ s, e.stations[i]? = some s ∧ s.entry.queue ≠ [] := by
  rw [unfinished, List.mem_filter, List.mem_range]
  constructor
  · rintro ⟨inside, open'⟩
    rw [List.getElem?_eq_getElem inside] at open' ⊢
    refine ⟨_, rfl, ?_⟩
    simpa [Entry.isComplete] using open'
  · rintro ⟨s, there, some⟩
    obtain ⟨inside, -⟩ := List.getElem?_eq_some_iff.1 there
    refine ⟨inside, ?_⟩
    rw [there]
    simpa [Entry.isComplete] using some

/-- No station is unfinished when nothing is left. -/
theorem Ledger.unfinished_eq_nil (h : Ledger queues cs e) (homes : Homes queues) :
    e.unfinished = [] ↔ left queues cs = [] := by
  rw [List.eq_nil_iff_forall_not_mem, List.eq_nil_iff_forall_not_mem]
  constructor
  · intro none d member
    obtain ⟨i, s, there, queued⟩ := (h.mem_left_iff homes).1 member
    exact none i (mem_unfinished.2 ⟨s, there, List.ne_nil_of_mem queued⟩)
  · intro none i member
    obtain ⟨s, there, some⟩ := mem_unfinished.1 member
    obtain ⟨d, queued⟩ := List.exists_mem_of_ne_nil _ some
    exact none d ((h.mem_left_iff homes).2 ⟨i, s, there, queued⟩)

variable {limit n : Nat}

theorem Rounds.ledger (rounds : Rounds limit e cs e' n) (homes : Homes queues)
    (h : Ledger queues before e) : Ledger queues (before ++ cs) e' ∧ Fresh before cs := by
  induction rounds generalizing before with
  | out => exact ⟨(List.append_nil before).symm ▸ h, trivial⟩
  | finished _ => exact ⟨(List.append_nil before).symm ▸ h, trivial⟩
  | stalled _ round => exact round.ledger homes h
  | again _ round _ ih =>
      obtain ⟨mid, fresh⟩ := round.ledger homes h
      obtain ⟨final, freshRest⟩ := ih mid
      rw [List.append_assoc] at final
      exact ⟨final, fresh.append freshRest⟩

/-- Rounds call work of the queues only. -/
theorem Rounds.within (rounds : Rounds limit e cs e' n) (homes : Homes queues)
    (h : Ledger queues before e) : ∀ c ∈ cs, c.work ∈ queues.flatten := by
  induction rounds generalizing before with
  | out => exact fun c member => nomatch member
  | finished _ => exact fun c member => nomatch member
  | stalled _ round => exact round.within homes h
  | again _ round _ ih =>
      intro c member
      rcases List.mem_append.1 member with here | later
      · exact round.within homes h c here
      · exact ih (round.ledger homes h).1 c later

/-- **Why rounds end**: nothing is left, or all that is left was called in a last round in
which everything failed, or every round up to the limit left less than the one before. -/
theorem Rounds.ends (rounds : Rounds limit e cs e' n) (homes : Homes queues)
    (h : Ledger queues before e) :
    left queues (before ++ cs) = [] ∨
      (∃ early last, cs = early ++ last ∧ (∀ c ∈ last, c.succeeded = false) ∧
        ∀ d ∈ left queues (before ++ cs), d ∈ last.map Entry.Call.work) ∨
      limit + (left queues (before ++ cs)).length ≤ (left queues before).length := by
  induction rounds generalizing before with
  | out =>
      rw [List.append_nil]
      exact Or.inr (Or.inr (by omega))
  | finished none =>
      rw [List.append_nil]
      exact Or.inl ((h.unfinished_eq_nil homes).1 none)
  | @stalled limit e e' cs _ round =>
      obtain ⟨failed, called⟩ := round.stalled homes h
      refine Or.inr (Or.inl ⟨[], cs, rfl, failed, fun d member => ?_⟩)
      have before' := (left_sublist queues before cs).subset member
      obtain ⟨i, s, there, queued⟩ := (h.mem_left_iff homes).1 before'
      exact called i (mem_unfinished.2 ⟨s, there, List.ne_nil_of_mem queued⟩) s there d queued
  | @again limit n e mid e' cs rest _ round _ ih =>
      have less := round.progress homes h
      obtain ⟨ledger, -⟩ := round.ledger homes h
      rw [← List.append_assoc]
      rcases ih ledger with none | ⟨early, last, split, failed, called⟩ | bounded
      · exact Or.inl none
      · refine Or.inr (Or.inl ⟨cs ++ early, last, ?_, failed, called⟩)
        rw [split, List.append_assoc]
      · exact Or.inr (Or.inr (by omega))

end Marking.Engine
