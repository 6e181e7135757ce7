/-
# Marking.Proofs.Entry.Calls -- an entry is what its calls made of it

Whatever a run does to an entry, it does by calls: a piece of work is processed, and the entry
takes the result in (`settle`).  Where a world keeps a log of the calls (`Logs`) and processing
queues nothing, this module reads off what every function of an entry does to both.  Attempts
settle their calls one after the other; the retry loop runs passes, each of which calls the
queue as it stood at its beginning (`Retries`).

Everything else about entries is then a matter of lists of calls.
-/
import Marking.Entry

set_option autoImplicit false

namespace Marking.Entry

variable {τ δ : Type}

/-- A piece of work was processed. -/
structure Call (δ : Type) where
  work : δ
  result : Except Fault Bool

def Call.succeeded (c : Call δ) : Bool :=
  match c.result with
  | .ok b => b
  | .error _ => false

/-- The call did not end the run: its work is done, or not done, or failed for now. -/
def Call.Regular (c : Call δ) : Prop := ∀ f, c.result = .error f → ∃ g, f = .injection g

/-- What an attempt makes of the result: work that failed for now is not done. -/
def Call.outcome (c : Call δ) : Except Fault Bool :=
  match c.result with
  | .error (.injection _) => .ok false
  | r => r

theorem Call.outcome_ok {c : Call δ} {b : Bool} (ok : c.outcome = .ok b) :
    c.Regular ∧ c.succeeded = b := by
  obtain ⟨work, result⟩ := c
  cases result with
  | ok done =>
      cases ok
      exact ⟨fun f differ => (nomatch differ), rfl⟩
  | error f =>
      cases f with
      | injection g =>
          cases ok
          exact ⟨fun f same => ⟨g, (Except.error.inj same).symm⟩, rfl⟩
      | _ => cases ok

/-- Only a call that ends the run is no attempt to the end. -/
theorem Call.outcome_error {c : Call δ} {f : Fault} (failed : c.outcome = .error f) :
    c.result = .error f ∧ ¬ c.Regular := by
  obtain ⟨work, result⟩ := c
  cases result with
  | ok done => cases failed
  | error g =>
      cases g with
      | injection g => cases failed
      | _ =>
          cases failed
          refine ⟨rfl, fun regular => ?_⟩
          obtain ⟨g, same⟩ := regular _ rfl
          cases same

variable [Work δ]

def settle (e : Entry δ) (c : Call δ) : Entry δ :=
  match c.result with
  | .ok true => e.finish c.work
  | .ok false => e.remember (Work.serial c.work) (notProcessed (Work.key c.work))
  | .error (.injection f) => e.remember (Work.serial c.work) (f.withKey (Work.key c.work))
  | .error _ => e

def settleAll (e : Entry δ) (cs : List (Call δ)) : Entry δ := cs.foldl settle e

theorem settleAll_cons (e : Entry δ) (c : Call δ) (cs : List (Call δ)) :
    e.settleAll (c :: cs) = (e.settle c).settleAll cs := rfl

theorem settleAll_snoc (e : Entry δ) (cs : List (Call δ)) (c : Call δ) :
    e.settleAll (cs ++ [c]) = (e.settleAll cs).settle c :=
  List.foldl_append

theorem queue_settle (e : Entry δ) (c : Call δ) :
    (e.settle c).queue =
      if c.succeeded then removeFirst (fun x => Work.serial x == Work.serial c.work) e.queue
      else e.queue := by
  unfold settle Call.succeeded
  split <;> simp_all [finish, remember]

theorem succeeded_settle (e : Entry δ) (c : Call δ) :
    (e.settle c).succeeded = e.succeeded + if c.succeeded then 1 else 0 := by
  unfold settle Call.succeeded
  split <;> simp_all [finish, remember]

/-- **An attempt queues what its call queued and settles the call.**  It may note something about
a call that did not end the run. -/
theorem attempt_eq (process : Process τ δ) (e : Entry δ) (d : δ) (w : World τ) :
    ∃ next, e.attempt process d w = (Call.outcome ⟨d, (process d w).1⟩,
        (e.addAll (process d w).2.1).settle ⟨d, (process d w).1⟩, next) ∧
      (next = (process d w).2.2 ∨
        (⟨d, (process d w).1⟩ : Call δ).Regular ∧ ∃ j, next = (process d w).2.2.note j) := by
  unfold attempt
  obtain ⟨result, queued, next⟩ := process d w
  cases result with
  | ok done => cases done <;> exact ⟨next, rfl, .inl rfl⟩
  | error f =>
      cases f with
      | injection g =>
          exact ⟨_, rfl, .inr ⟨fun f same => ⟨g, (Except.error.inj same).symm⟩, _, rfl⟩⟩
      | _ => exact ⟨next, rfl, .inl rfl⟩

/-! ## Logged processing -/

/-- What a world keeps of the calls made so far: a list of lines, one for each call. -/
structure Log (τ δ : Type) where
  Line : Type
  lines : World τ → List Line
  call : Line → Call δ

def Log.calls (log : Log τ δ) (w : World τ) : List (Call δ) := (log.lines w).map log.call

def Log.Keeps (log : Log τ δ) (process : Process τ δ) (d : δ) (w : World τ) : Prop :=
  ∃ l, log.lines (process d w).2.2 = log.lines w ++ [l] ∧ log.call l = ⟨d, (process d w).1⟩

/-- Processing queues nothing and logs the calls that do not end the run. -/
structure Logs (process : Process τ δ) (log : Log τ δ) : Prop where
  note : ∀ w j, log.lines (w.note j) = log.lines w
  quiet : ∀ d w, (process d w).2.1 = []
  logged : ∀ d w, (⟨d, (process d w).1⟩ : Call δ).Regular → log.Keeps process d w

/-- Between two worlds the calls were logged, and none of them ended the run. -/
structure Logged (log : Log τ δ) (w : World τ) (cs : List (Call δ)) (w' : World τ) : Prop where
  lines : ∃ ls, log.lines w' = log.lines w ++ ls ∧ ls.map log.call = cs
  regular : ∀ c ∈ cs, c.Regular

omit [Work δ] in
theorem Logged.none (log : Log τ δ) (w : World τ) : Logged log w [] w :=
  ⟨⟨[], (List.append_nil _).symm, rfl⟩, fun _ member => nomatch member⟩

omit [Work δ] in
theorem Logged.trans {log : Log τ δ} {w mid w' : World τ} {cs ds : List (Call δ)}
    (first : Logged log w cs mid) (second : Logged log mid ds w') : Logged log w (cs ++ ds) w' where
  lines := by
    obtain ⟨ls, early, rfl⟩ := first.lines
    obtain ⟨ms, late, rfl⟩ := second.lines
    exact ⟨ls ++ ms, by rw [late, early, List.append_assoc], List.map_append⟩
  regular c member := (List.mem_append.1 member).elim (first.regular c) (second.regular c)

variable {process : Process τ δ} {log : Log τ δ} {e e' : Entry δ} {w w' : World τ}

omit [Work δ] in
theorem Logged.note (h : Logs process log) {cs : List (Call δ)} (logged : Logged log w cs w')
    (j : Journal) : Logged log w cs (w'.note j) :=
  ⟨(h.note w' j).symm ▸ logged.lines, logged.regular⟩

omit [Work δ] in
/-- A call that does not end the run is logged. -/
theorem Logs.call (h : Logs process log) {d : δ}
    (regular : (⟨d, (process d w).1⟩ : Call δ).Regular) :
    Logged log w [⟨d, (process d w).1⟩] (process d w).2.2 := by
  obtain ⟨l, kept, isCall⟩ := h.logged d w regular
  exact ⟨⟨[l], kept, congrArg (fun c => [c]) isCall⟩, fun _ member =>
    List.mem_singleton.1 member ▸ regular⟩

/-- An attempt settles its call. -/
theorem attempt_spec (h : Logs process log) {d : δ} {b : Bool}
    (ok : e.attempt process d w = (.ok b, e', w')) :
    ∃ c : Call δ, c.work = d ∧ c.succeeded = b ∧ Logged log w [c] w' ∧ e' = e.settle c := by
  obtain ⟨next, eq, ends⟩ := attempt_eq process e d w
  rw [eq, h.quiet, Prod.mk.injEq, Prod.mk.injEq] at ok
  obtain ⟨ended, rfl, rfl⟩ := ok
  obtain ⟨regular, succeeded⟩ := Call.outcome_ok ended
  refine ⟨_, rfl, succeeded, ?_, rfl⟩
  obtain rfl | ⟨-, j, rfl⟩ := ends
  · exact h.call regular
  · exact (h.call regular).note h j

/-- Attempts settle their calls in turn. -/
theorem attemptAll_spec (h : Logs process log) {ds : List δ}
    (ok : e.attemptAll process ds w = (.ok (), e', w')) :
    ∃ cs : List (Call δ), cs.map Call.work = ds ∧ Logged log w cs w' ∧ e' = e.settleAll cs := by
  induction ds generalizing e w with
  | nil =>
      cases ok
      exact ⟨[], rfl, .none log _, rfl⟩
  | cons d ds ih =>
      rw [attemptAll] at ok
      cases first : e.attempt process d w with
      | mk result rest =>
          obtain ⟨mid, next⟩ := rest
          rw [first] at ok
          cases result with
          | error f => cases ok
          | ok b =>
              obtain ⟨c, isWork, -, logged, rfl⟩ := attempt_spec h first
              obtain ⟨cs, works, later, rfl⟩ := ih ok
              refine ⟨c :: cs, ?_, logged.trans later, rfl⟩
              rw [List.map_cons, isWork, works]

/-! ## The retry loop -/

def beginPass (e : Entry δ) : Entry δ := { e with state := .retrying, passes := e.passes + 1 }

/-- Passes over the queue as it stands, until it is empty or a pass leaves its length as it
was. -/
inductive Retries : Entry δ → List (Call δ) → Entry δ → Prop
  | done {e : Entry δ} : e.queue = [] → Retries e [] e
  | stuck {e : Entry δ} {cs : List (Call δ)} : e.queue ≠ [] → cs.map Call.work = e.queue →
      (e.beginPass.settleAll cs).queue.length = e.queue.length →
      Retries e cs (e.beginPass.settleAll cs)
  | again {e e' : Entry δ} {cs rest : List (Call δ)} : e.queue ≠ [] →
      cs.map Call.work = e.queue → (e.beginPass.settleAll cs).queue.length ≠ e.queue.length →
      Retries (e.beginPass.settleAll cs) rest e' → Retries e (cs ++ rest) e'

theorem pass_spec (h : Logs process log) (ok : e.pass process w = (.ok (), e', w')) :
    ∃ cs : List (Call δ), cs.map Call.work = e.queue ∧ Logged log w cs w' ∧
      e' = e.beginPass.settleAll cs := by
  unfold pass at ok
  cases ran : e.beginPass.attemptAll process e.queue w with
  | mk result rest =>
      obtain ⟨mid, next⟩ := rest
      have ran' : attemptAll process { e with state := .retrying, passes := e.passes + 1 } e.queue w =
          (result, mid, next) := ran
      simp only [ran'] at ok
      cases result with
      | error f => cases ok
      | ok _ =>
          obtain ⟨cs, works, logged, settled⟩ := attemptAll_spec h ran
          cases ok
          exact ⟨cs, works, logged.note h _, settled⟩

theorem passesWith_spec (h : Logs process log) {fuel : Nat}
    (ok : passesWith process fuel e w = (.ok (), e', w')) :
    ∃ cs : List (Call δ), Logged log w cs w' ∧ Retries e cs e' := by
  induction fuel generalizing e w with
  | zero =>
      rw [passesWith] at ok
      by_cases none : e.queue = []
      · rw [none] at ok
        cases ok
        exact ⟨[], .none log _, .done none⟩
      · rw [if_neg (by simpa using none)] at ok
        cases ok
  | succ fuel ih =>
      rw [passesWith] at ok
      by_cases none : e.queue = []
      · rw [none] at ok
        cases ok
        exact ⟨[], .none log _, .done none⟩
      · rw [if_neg (by simpa using none)] at ok
        cases ran : e.pass process w with
        | mk result rest =>
            obtain ⟨mid, next⟩ := rest
            rw [ran] at ok
            cases result with
            | error f => cases ok
            | ok _ =>
                obtain ⟨cs, works, logged, rfl⟩ := pass_spec h ran
                simp only [] at ok
                by_cases same : (e.beginPass.settleAll cs).queue.length = e.queue.length
                · rw [if_pos same] at ok
                  cases ok
                  exact ⟨cs, logged, .stuck none works same⟩
                · rw [if_neg same] at ok
                  obtain ⟨more, later, rest⟩ := ih ok
                  exact ⟨cs ++ more, logged.trans later, .again none works same rest⟩

/-- The entry at the end of a run over a queue that began with `initial` pieces of work. -/
def concluded (initial : Nat) (e : Entry δ) : Entry δ :=
  { e with
    removed := (initial : Int) - e.queue.length
    state := if e.queue.isEmpty then .complete else .stalled }

omit [Work δ] in
theorem removed_concluded (initial : Nat) (e : Entry δ) :
    (concluded initial e).removed = (initial : Int) - e.queue.length := rfl

omit [Work δ] in
theorem conclude_spec (initial : Nat) (e : Entry δ) (w : World τ) :
    (conclude initial e w).2.1 = concluded initial e ∧
      ∃ j, (conclude initial e w).2.2 = w.note j := by
  unfold conclude concluded
  by_cases none : e.queue = []
  · simp only [none, List.isEmpty_nil, if_true]
    exact ⟨trivial, [], by simp [World.note]⟩
  · have some : e.queue.isEmpty = false := by simpa using none
    simp only [some, Bool.false_eq_true, if_false]
    exact ⟨trivial, _, rfl⟩

/-- **A run over the queue retries it and concludes.** -/
theorem processAll_spec (h : Logs process log) {fuel : Nat} {b : Bool}
    (ok : e.processAll process fuel w = (.ok b, e', w')) :
    ∃ (cs : List (Call δ)) (mid : Entry δ), Logged log w cs w' ∧
      Retries { e with failures := [] } cs mid ∧ e' = concluded e.queue.length mid := by
  unfold processAll at ok
  cases ran : passesWith process fuel { e with failures := [] } w with
  | mk result rest =>
      obtain ⟨mid, next⟩ := rest
      simp only [ran] at ok
      cases result with
      | error f => cases ok
      | ok _ =>
          obtain ⟨cs, logged, retries⟩ := passesWith_spec h ran
          obtain ⟨settled, j, noted⟩ := conclude_spec e.queue.length mid next
          cases ok
          refine ⟨cs, mid, ?_, retries, settled⟩
          rw [noted]
          exact logged.note h j

end Marking.Entry
