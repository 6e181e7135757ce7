/-
# Marking.Proofs.Precedence.Least -- the countdown emits the earliest ready node

The plain account of the strict order: again and again the first node is emitted that waits for
nothing, until no node is ready (`EarliestFirst`).  The countdown keeps counts and a list of
ready positions instead of looking for that node; `Countdown.Sound` ties them to the order made
so far, and `countdown_earliestFirst` says that it makes the same order.
-/
import Marking.Precedence.Least
import Marking.Proofs.Precedence.Unmet

set_option autoImplicit false

namespace Marking

variable {β γ : Type}

/-! ## The rule -/

section Rule

variable (waits : β → β → Prop) (nodes : List β)

/-- Emissions of the first ready node, from a state in which the first list is emitted up to one
in which nothing is ready. -/
inductive EarliestFirst : List β → List β → Prop
  | stuck {emitted : List β} :
      (∀ u ∈ nodes, u ∈ emitted ∨ ¬ Ready waits nodes emitted u) → EarliestFirst emitted emitted
  | emit {emitted order : List β} {u : β} :
      First (fun v => v ∉ emitted ∧ Ready waits nodes emitted v) nodes u →
      EarliestFirst (emitted ++ [u]) order → EarliestFirst emitted order

end Rule

variable {waits : β → β → Prop} {nodes : List β}

/-- Everything in the order comes after what it waits for, and what is left out is not ready. -/
theorem EarliestFirst.explains {emitted order : List β} (h : EarliestFirst waits nodes emitted order)
    (explained : Explains waits nodes emitted []) :
    Explains waits nodes order [] ∧ ∀ u ∈ nodes, u ∈ order ∨ ¬ Ready waits nodes order u := by
  induction h with
  | stuck idle => exact ⟨explained, idle⟩
  | emit first _ ih =>
      obtain ⟨member, fresh, ready⟩ := first.mem
      exact ih (explained.emit member fresh ready)

/-- The same emissions order other nodes of the same shape. -/
theorem EarliestFirst.map {waits' : γ → γ → Prop} (f : β → γ)
    (injective : ∀ u ∈ nodes, ∀ v ∈ nodes, f u = f v → u = v)
    (same : ∀ u ∈ nodes, ∀ v ∈ nodes, waits u v ↔ waits' (f u) (f v)) {emitted order : List β}
    (h : EarliestFirst waits nodes emitted order) (old : ∀ u ∈ emitted, u ∈ nodes) :
    EarliestFirst waits' (nodes.map f) (emitted.map f) (order.map f) := by
  induction h with
  | @stuck emitted idle =>
      refine .stuck fun w image => ?_
      obtain ⟨u, member, rfl⟩ := List.mem_map.1 image
      rw [mem_map_of_injective f injective old member, ready_map_iff f injective same old member]
      exact idle u member
  | @emit emitted order u first _ ih =>
      have member : u ∈ nodes := first.mem.1
      have rest := ih fun v inOut => by
        rcases List.mem_append.1 inOut with before | last
        · exact old v before
        · exact List.mem_singleton.1 last ▸ member
      rw [List.map_append, List.map_singleton] at rest
      refine .emit (first.map f fun v vMember => ?_) rest
      rw [mem_map_of_injective f injective old vMember, ready_map_iff f injective same old vMember]

/-! ## The countdown -/

namespace Precedence

namespace Countdown

/-- What the release of the positions in `feeds` changes. -/
structure Released (feeds : List Nat) (c d : Countdown) : Prop where
  order : d.order = c.order
  size_waiting : d.waiting.size = c.waiting.size
  waiting : ∀ i, d.waiting.getD i 0 = c.waiting.getD i 0 - if i ∈ feeds then 1 else 0
  mem_ready : ∀ i, i ∈ d.ready ↔ i ∈ c.ready ∨ (i ∈ feeds ∧ c.waiting.getD i 0 - 1 = 0)
  rising : c.ready.Pairwise (· < ·) → (∀ i ∈ feeds, i ∉ c.ready) → d.ready.Pairwise (· < ·)

theorem release_eq (c : Countdown) (i : Nat) :
    release c i = { c with
      waiting := countDown c.waiting i
      ready := if c.waiting.getD i 0 - 1 = 0 then insertRising i c.ready else c.ready } := by
  have count : (countDown c.waiting i).getD i 0 = c.waiting.getD i 0 - 1 := by
    rw [getD_countDown, if_pos rfl]
  by_cases last : c.waiting.getD i 0 - 1 = 0
  · have test : ((countDown c.waiting i).getD i 0 == 0) = true := by
      rw [count, last]
      rfl
    simp only [release, test, last, if_true]
  · have test : ((countDown c.waiting i).getD i 0 == 0) = false := by
      rw [count]
      exact beq_eq_false_iff_ne.2 last
    simp only [release, test, last, if_false, Bool.false_eq_true]

theorem released_one (c : Countdown) (i : Nat) : Released [i] c (release c i) := by
  have takes : Takes (fun j => c.waiting.getD j 0 - 1 = 0) [i] c.ready
      (if c.waiting.getD i 0 - 1 = 0 then insertRising i c.ready else c.ready) :=
    takes_one fun _ => mem_insertRising
  rw [release_eq]
  refine ⟨rfl, size_countDown _ _, lowered_one c.waiting i, takes, fun rise fresh => ?_⟩
  show (if c.waiting.getD i 0 - 1 = 0 then insertRising i c.ready else c.ready).Pairwise (· < ·)
  split
  · exact insertRising_pairwise rise (fresh i List.mem_cons_self)
  · exact rise

theorem released_all (feeds : List Nat) (nodup : feeds.Nodup) (c : Countdown) :
    Released feeds c (feeds.foldl release c) := by
  induction feeds generalizing c with
  | nil => exact ⟨rfl, rfl, fun i => by simp, fun i => by simp, fun rise _ => rise⟩
  | cons i feeds ih =>
      obtain ⟨fresh, rest⟩ := List.nodup_cons.1 nodup
      have first := released_one c i
      have later := ih rest (release c i)
      have lowered : Lowered [i] c.waiting (release c i).waiting := first.waiting
      have takes : Takes (fun j => c.waiting.getD j 0 - 1 = 0) [i] c.ready (release c i).ready :=
        first.mem_ready
      refine ⟨later.order.trans first.order, later.size_waiting.trans first.size_waiting,
        lowered.cons later.waiting fresh, takes.cons later.mem_ready fun j member => ?_,
        fun rise apart => later.rising (first.rising rise fun j member => ?_)
          (takes.apart fresh apart)⟩
      · rw [lowered.other fresh member]
      · exact apart j (List.mem_singleton.1 member ▸ List.mem_cons_self)

/-- The counts are exact, and the ready positions are those that wait for nothing. -/
structure Sound (p : Precedence) (c : Countdown) : Prop where
  size_waiting : c.waiting.size = p.size
  order_nodup : c.order.Nodup
  order_lt : ∀ i ∈ c.order, i < p.size
  order_met : ∀ i ∈ c.order, p.unmet c.order i = 0
  waiting_eq : ∀ i, i < p.size → c.waiting.getD i 0 = p.unmet c.order i
  mem_ready : ∀ i, i ∈ c.ready ↔ i < p.size ∧ i ∉ c.order ∧ p.unmet c.order i = 0
  ready_rising : c.ready.Pairwise (· < ·)

variable {p : Precedence} {c : Countdown}

theorem sound_start (p : Precedence) : Sound p (start p) where
  size_waiting := by simp [start, size]
  order_nodup := List.nodup_nil
  order_lt _ member := nomatch member
  order_met _ member := nomatch member
  waiting_eq i _ := by
    rw [start, unmet_nil]
    exact getD_map_length p.needs i
  mem_ready i := by simp [start, mem_positions, unmet_nil]
  ready_rising := List.pairwise_lt_range.filter _

def emitted (p : Precedence) (c : Countdown) (i : Nat) (rest : List Nat) : Countdown :=
  (p.feedsOf i).foldl release { c with ready := rest, order := c.order ++ [i] }

theorem released_emitted (p : Precedence) (c : Countdown) (i : Nat) (rest : List Nat) :
    Released (p.feedsOf i) { c with ready := rest, order := c.order ++ [i] } (emitted p c i rest) :=
  released_all (p.feedsOf i) (List.nodup_range.filter _) _

/-- Behind the head stand the other ready positions. -/
theorem Sound.mem_rest (h : Sound p c) {i : Nat} {rest : List Nat} (head : c.ready = i :: rest)
    (j : Nat) : j ∈ rest ↔ j ≠ i ∧ j < p.size ∧ j ∉ c.order ∧ p.unmet c.order j = 0 := by
  have rise := h.ready_rising
  rw [head] at rise
  rw [← h.mem_ready, head, List.mem_cons]
  constructor
  · intro member
    exact ⟨fun same => Nat.lt_irrefl i ((List.pairwise_cons.1 rise).1 i (same ▸ member)), Or.inr member⟩
  · rintro ⟨other, same | member⟩
    · exact absurd same other
    · exact member

/-- Emitting the head readies what the counts say. -/
theorem Sound.mem_ready_emitted (h : Sound p c) {i : Nat} {rest : List Nat}
    (head : c.ready = i :: rest) (j : Nat) :
    j ∈ (emitted p c i rest).ready ↔
      j < p.size ∧ j ∉ c.order ++ [i] ∧ p.unmet (c.order ++ [i]) j = 0 := by
  obtain ⟨-, fresh, zero⟩ := (h.mem_ready i).1 (head ▸ List.mem_cons_self)
  rw [(released_emitted p c i rest).mem_ready, ready_snoc_iff fresh, ← h.mem_rest head]
  show j ∈ rest ∨ (j ∈ p.feedsOf i ∧ c.waiting.getD j 0 - 1 = 0) ↔ _
  refine or_congr_right (and_congr_right fun fed => ?_)
  have more := unmet_fed fresh fed
  have count := h.waiting_eq j ((mem_feedsOf p j i).1 fed).1
  -- A position with an unmet need is neither in the order nor the one emitted.
  have unordered : j ∉ c.order ++ [i] := by
    rw [List.mem_append, List.mem_singleton]
    rintro (old | rfl)
    · have met := h.order_met j old
      omega
    · omega
  constructor
  · exact fun last => ⟨unordered, by omega⟩
  · rintro ⟨-, met⟩
    omega

theorem Sound.emitHead (h : Sound p c) {i : Nat} {rest : List Nat} (head : c.ready = i :: rest) :
    First (fun v => v ∉ c.order ∧ Ready p.Waits p.positions c.order v) p.positions i ∧
      Sound p (emitted p c i rest) ∧ (emitted p c i rest).order = c.order ++ [i] := by
  obtain ⟨inside, fresh, zero⟩ := (h.mem_ready i).1 (head ▸ List.mem_cons_self)
  have rise := h.ready_rising
  rw [head] at rise
  obtain ⟨below, restRising⟩ := List.pairwise_cons.1 rise
  have released := released_emitted p c i rest
  have order : (emitted p c i rest).order = c.order ++ [i] := released.order
  have lowered : Lowered (p.feedsOf i) c.waiting (emitted p c i rest).waiting := released.waiting
  refine ⟨first_positions ⟨fresh, ready_iff.2 zero⟩ inside fun v lt chosen => ?_, ?_, order⟩
  · -- Everything ready stands behind the head.
    have member := (h.mem_rest head v).2
      ⟨Nat.ne_of_lt lt, lt.trans inside, chosen.1, ready_iff.1 chosen.2⟩
    have := below v member
    omega
  · refine
      { size_waiting := released.size_waiting.trans h.size_waiting
        order_nodup := order ▸ nodup_snoc h.order_nodup fresh
        order_lt := order ▸ lt_size_snoc h.order_lt inside
        order_met := ?_
        waiting_eq := order ▸ lowered.exact fresh h.waiting_eq
        mem_ready := order ▸ h.mem_ready_emitted head
        ready_rising := released.rising restRising fun j fed inRest => ?_ }
    · intro j member
      rw [order] at member ⊢
      have count := unmet_snoc (p := p) fresh j
      rcases List.mem_append.1 member with old | last
      · have := h.order_met j old
        omega
      · rw [List.mem_singleton.1 last] at count ⊢
        omega
    · have ready := ((h.mem_rest head j).1 inRest).2.2.2
      have := unmet_fed fresh fed
      omega

theorem Sound.idle (h : Sound p c) (none : c.ready = []) :
    ∀ i ∈ p.positions, i ∈ c.order ∨ ¬ Ready p.Waits p.positions c.order i := by
  intro i member
  by_cases old : i ∈ c.order
  · exact Or.inl old
  · refine Or.inr fun ready => ?_
    have inReady := (h.mem_ready i).2 ⟨mem_positions.1 member, old, ready_iff.1 ready⟩
    rw [none] at inReady
    cases inReady

/-- From any state, enough steps lead to one in which nothing is ready. -/
theorem run_spec (fuel : Nat) : ∀ {c : Countdown}, Sound p c → p.size - c.order.length ≤ fuel →
    EarliestFirst p.Waits p.positions c.order (run p fuel c).order ∧ Sound p (run p fuel c) ∧
      (run p fuel c).ready = [] := by
  induction fuel with
  | zero =>
      intro c h enough
      have none : c.ready = [] := by
        rw [List.eq_nil_iff_forall_not_mem]
        intro i member
        obtain ⟨small, fresh, -⟩ := (h.mem_ready i).1 member
        exact fresh (mem_of_size_le_length h.order_nodup h.order_lt (by omega) small)
      exact ⟨.stuck (h.idle none), h, none⟩
  | succ fuel ih =>
      intro c h enough
      cases head : c.ready with
      | nil =>
          have ended : run p (fuel + 1) c = c := by
            rw [run, head]
          rw [ended]
          exact ⟨.stuck (h.idle head), h, head⟩
      | cons i rest =>
          have step : run p (fuel + 1) c = run p fuel (emitted p c i rest) := by
            rw [run, head]
            rfl
          obtain ⟨first, sound, order⟩ := h.emitHead head
          have fewer : p.size - (emitted p c i rest).order.length ≤ fuel := by
            rw [order, List.length_append, List.length_singleton]
            omega
          obtain ⟨sweep, last, none⟩ := ih sound fewer
          rw [order] at sweep
          rw [step]
          exact ⟨.emit first sweep, last, none⟩

end Countdown

/-- **The countdown emits the earliest ready position, as long as there is one.** -/
theorem countdown_earliestFirst (p : Precedence) :
    EarliestFirst p.Waits p.positions [] p.countdown.order :=
  (Countdown.run_spec p.size (Countdown.sound_start p) (Nat.sub_le _ _)).1

theorem countdown_sound (p : Precedence) : Countdown.Sound p p.countdown :=
  (Countdown.run_spec p.size (Countdown.sound_start p) (Nat.sub_le _ _)).2.1

/-- A position keeps a positive count exactly when it is not emitted. -/
theorem mem_stuck {p : Precedence} {i : Nat} :
    i ∈ p.stuck ↔ i ∈ p.positions ∧ i ∉ p.countdown.order := by
  have h := p.countdown_sound
  rw [stuck, List.mem_filter, decide_eq_true_iff]
  refine and_congr_right fun member => ?_
  rw [h.waiting_eq i (mem_positions.1 member)]
  constructor
  · intro waiting inOrder
    exact Nat.ne_of_gt waiting (h.order_met i inOrder)
  · intro left
    have idle := (p.countdown_earliestFirst.explains explains_nil).2 i member
    exact Nat.pos_of_ne_zero fun met => idle.resolve_left left (ready_iff.2 met)

/-- The strict order is the whole of what the countdown emits. -/
theorem leastOrder?_eq_some_iff {p : Precedence} {order : List Nat} :
    p.leastOrder? = some order ↔ p.countdown.order = order ∧ ∀ i ∈ p.positions, i ∈ order := by
  have h := p.countdown_sound
  have full : p.countdown.order.length = p.size ↔ ∀ i ∈ p.positions, i ∈ p.countdown.order := by
    constructor
    · intro same i member
      exact mem_of_size_le_length h.order_nodup h.order_lt same.ge (mem_positions.1 member)
    · intro all
      have inside : p.countdown.order.Subperm p.positions :=
        h.order_nodup.subperm fun i member => mem_positions.2 (h.order_lt i member)
      have outside : p.positions.Subperm p.countdown.order := List.nodup_range.subperm all
      exact (inside.antisymm outside).length_eq.trans p.length_positions
  by_cases whole : p.countdown.order.length = p.size
  · simp only [leastOrder?, whole, if_true, Option.some.injEq]
    constructor
    · rintro rfl
      exact ⟨rfl, full.1 whole⟩
    · exact fun same => same.1
  · simp only [leastOrder?, whole, if_false, reduceCtorEq, false_iff, not_and]
    rintro rfl all
    exact whole (full.2 all)

end Precedence

end Marking
