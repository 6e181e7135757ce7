/-
# Marking.Proofs.Precedence.Sweeps -- ordering by repeated passes, as a rule

This is the plain account of an ordering that survives cycles; nothing in it counts, sorts or
keeps a queue.  There are nodes in order of registration and a relation that says which node
waits for which.

* `Sweep`: one full pass visits the nodes in order of registration and emits every remaining
  node all of whose needs are emitted, also earlier in the same pass.
* `Sweeps`: passes are repeated.  A pass that emits nothing is followed by the emission of the
  first remaining node that is a knot: whatever it reaches through nodes that are not emitted
  reaches it back.  The order ends when no node remains.

The rule leaves nothing open (`Sweeps.deterministic`) and does not look at what the nodes are
(`Sweeps.map`).  Its order holds every node once, and a node that was not forced comes after
everything that it waits for (`Sweeps.explains`).
-/
import Mathlib.Data.List.Basic
import Marking.Proofs.Precedence.Reachability

set_option autoImplicit false

namespace Marking

variable {β γ : Type}

/-- The first member of a list that is chosen. -/
inductive First (chosen : β → Prop) : List β → β → Prop
  | here {u : β} {us : List β} : chosen u → First chosen (u :: us) u
  | later {u v : β} {us : List β} : ¬ chosen v → First chosen us u → First chosen (v :: us) u

theorem First.unique {chosen : β → Prop} {us : List β} {u v : β} (hu : First chosen us u)
    (hv : First chosen us v) : u = v := by
  induction hu with
  | here is =>
      cases hv with
      | here => rfl
      | later isNot => exact absurd is isNot
  | later isNot _ ih =>
      cases hv with
      | here is => exact absurd is isNot
      | later _ rest => exact ih rest

theorem First.mem {chosen : β → Prop} {us : List β} {u : β} (h : First chosen us u) :
    u ∈ us ∧ chosen u := by
  induction h with
  | here is => exact ⟨List.mem_cons_self, is⟩
  | later _ _ ih => exact ⟨List.mem_cons_of_mem _ ih.1, ih.2⟩

theorem First.map (f : β → γ) {chosen : β → Prop} {chosen' : γ → Prop} {us : List β} {u : β}
    (same : ∀ v ∈ us, chosen v ↔ chosen' (f v)) (h : First chosen us u) :
    First chosen' (us.map f) (f u) := by
  induction h with
  | here is => exact .here ((same _ List.mem_cons_self).1 is)
  | later isNot _ ih =>
      exact .later (fun is => isNot ((same _ List.mem_cons_self).2 is))
        (ih fun v member => same v (List.mem_cons_of_mem _ member))

section Rule

variable (waits : β → β → Prop) (nodes : List β)

def Ready (emitted : List β) (u : β) : Prop := ∀ v ∈ nodes, waits u v → v ∈ emitted

def Blocks (emitted : List β) (u v : β) : Prop := waits u v ∧ v ∈ nodes ∧ v ∉ emitted

/-- One pass over the list `us`. -/
inductive Sweep : List β → List β → List β → Prop
  | done (emitted : List β) : Sweep [] emitted emitted
  | emit {u : β} {us emitted out : List β} : u ∉ emitted → Ready waits nodes emitted u →
      Sweep us (emitted ++ [u]) out → Sweep (u :: us) emitted out
  | skip {u : β} {us emitted out : List β} : u ∈ emitted ∨ ¬ Ready waits nodes emitted u →
      Sweep us emitted out → Sweep (u :: us) emitted out

/-- Passes from a state in which the first list is emitted and the second one, a part of it,
was forced, up to the order and everything that was forced. -/
inductive Sweeps : List β → List β → List β → List β → Prop
  | finished {emitted forced : List β} : (∀ u ∈ nodes, u ∈ emitted) →
      Sweeps emitted forced emitted forced
  | sweep {emitted forced out order allForced : List β} : Sweep waits nodes nodes emitted out →
      out ≠ emitted → Sweeps out forced order allForced → Sweeps emitted forced order allForced
  | force {emitted forced order allForced : List β} {u : β} :
      Sweep waits nodes nodes emitted emitted →
      First (fun v => v ∉ emitted ∧ Knot (Blocks waits nodes emitted) v) nodes u →
      Sweeps (emitted ++ [u]) (forced ++ [u]) order allForced →
      Sweeps emitted forced order allForced

end Rule

variable {waits : β → β → Prop} {nodes : List β}

/-! ## One pass -/

theorem Sweep.isPrefix {us emitted out : List β} (h : Sweep waits nodes us emitted out) :
    emitted <+: out := by
  induction h with
  | done => exact List.prefix_refl _
  | emit _ _ _ ih => exact (List.prefix_append _ _).trans ih
  | skip _ _ ih => exact ih

theorem Sweep.subset {us emitted out : List β} (h : Sweep waits nodes us emitted out) {v : β}
    (member : v ∈ out) : v ∈ emitted ∨ v ∈ us := by
  induction h with
  | done => exact Or.inl member
  | emit _ _ _ ih =>
      rcases ih member with old | later
      · rcases List.mem_append.1 old with before | last
        · exact Or.inl before
        · exact Or.inr (List.mem_cons.2 (Or.inl (List.mem_singleton.1 last)))
      · exact Or.inr (List.mem_cons_of_mem _ later)
  | skip _ _ ih => exact (ih member).imp_right (List.mem_cons_of_mem _)

/-- A pass that emits nothing finds nothing to emit. -/
theorem Sweep.idle {us emitted : List β} (h : Sweep waits nodes us emitted emitted) :
    ∀ u ∈ us, u ∈ emitted ∨ ¬ Ready waits nodes emitted u := by
  generalize same : emitted = out at h
  rw [show Sweep waits nodes us out out ↔ Sweep waits nodes us emitted out by rw [same]] at h
  induction h with
  | done => intro u member; cases member
  | @emit u us emitted out fresh _ rest _ =>
      have grown := rest.isPrefix.length_le
      rw [same, List.length_append, List.length_singleton] at grown
      omega
  | @skip u us emitted out idle _ ih =>
      intro v member
      rcases List.mem_cons.1 member with rfl | later
      · exact same ▸ idle
      · exact same ▸ ih same v later

theorem Sweep.of_idle {us emitted : List β}
    (idle : ∀ u ∈ us, u ∈ emitted ∨ ¬ Ready waits nodes emitted u) :
    Sweep waits nodes us emitted emitted := by
  induction us with
  | nil => exact .done _
  | cons u us ih =>
      exact .skip (idle u List.mem_cons_self) (ih fun v member => idle v (List.mem_cons_of_mem u member))

theorem Sweep.deterministic {us emitted a b : List β} (ha : Sweep waits nodes us emitted a)
    (hb : Sweep waits nodes us emitted b) : a = b := by
  induction ha with
  | done => cases hb; rfl
  | emit fresh ready _ ih =>
      cases hb with
      | emit _ _ rest => exact ih rest
      | skip idle _ => exact absurd idle (by tauto)
  | skip idle _ ih =>
      cases hb with
      | emit fresh ready _ => exact absurd idle (by tauto)
      | skip _ rest => exact ih rest

/-! ## Repeated passes -/

theorem Sweeps.deterministic {emitted forced order₁ forced₁ order₂ forced₂ : List β}
    (h₁ : Sweeps waits nodes emitted forced order₁ forced₁)
    (h₂ : Sweeps waits nodes emitted forced order₂ forced₂) :
    order₁ = order₂ ∧ forced₁ = forced₂ := by
  induction h₁ with
  | finished all =>
      cases h₂ with
      | finished => exact ⟨rfl, rfl⟩
      | sweep pass moved _ =>
          have idle : Sweep waits nodes nodes _ _ := .of_idle fun u member => Or.inl (all u member)
          exact absurd (pass.deterministic idle) moved
      | force _ first _ => exact absurd (all _ first.mem.1) first.mem.2.1
  | sweep pass moved _ ih =>
      cases h₂ with
      | finished all =>
          have idle : Sweep waits nodes nodes _ _ := .of_idle fun u member => Or.inl (all u member)
          exact absurd (pass.deterministic idle) moved
      | sweep pass' _ rest =>
          cases pass.deterministic pass'
          exact ih rest
      | force idle _ _ => exact absurd (pass.deterministic idle) moved
  | force idle first _ ih =>
      cases h₂ with
      | finished all => exact absurd (all _ first.mem.1) first.mem.2.1
      | sweep pass moved _ => exact absurd (pass.deterministic idle) moved
      | force _ first' rest =>
          cases first.unique first'
          exact ih rest

/-! ## What the order says -/

theorem append_singleton_split {order before after : List β} {u v : β}
    (split : order ++ [u] = before ++ v :: after) :
    (order = before ∧ u = v) ∨ ∃ rest, order = before ++ v :: rest := by
  rcases List.eq_nil_or_concat after with rfl | ⟨rest, last, rfl⟩
  · obtain ⟨same, ends⟩ := List.append_inj' split rfl
    exact Or.inl ⟨same, by simpa using ends⟩
  · rw [List.concat_eq_append, ← List.cons_append, ← List.append_assoc] at split
    exact Or.inr ⟨rest, (List.append_inj' split rfl).1⟩

variable (waits nodes)

/-- The order has no repetitions, and `forced` tells exactly which of its nodes come before
something that they wait for: each of them was a knot when it was emitted. -/
structure Explains (order forced : List β) : Prop where
  nodup : order.Nodup
  subset : ∀ u ∈ order, u ∈ nodes
  sublist : forced.Sublist order
  placed : ∀ before u after, order = before ++ u :: after →
    (u ∉ forced ∧ Ready waits nodes before u) ∨
      (u ∈ forced ∧ ¬ Ready waits nodes before u ∧ Knot (Blocks waits nodes before) u)

variable {waits nodes}

theorem explains_nil : Explains waits nodes [] [] :=
  ⟨List.nodup_nil, fun _ member => (nomatch member), List.Sublist.refl _, by simp⟩

theorem Explains.emit {order forced : List β} (h : Explains waits nodes order forced) {u : β}
    (member : u ∈ nodes) (fresh : u ∉ order) (ready : Ready waits nodes order u) :
    Explains waits nodes (order ++ [u]) forced where
  nodup := List.concat_eq_append ▸ h.nodup.concat fresh
  subset v inOrder := by
    rcases List.mem_append.1 inOrder with old | last
    · exact h.subset v old
    · exact List.mem_singleton.1 last ▸ member
  sublist := h.sublist.trans (List.sublist_append_left _ _)
  placed before v after split := by
    rcases append_singleton_split split with ⟨rfl, rfl⟩ | ⟨rest, old⟩
    · exact Or.inl ⟨fun inForced => fresh (h.sublist.subset inForced), ready⟩
    · exact h.placed before v rest old

theorem Explains.force {order forced : List β} (h : Explains waits nodes order forced) {u : β}
    (member : u ∈ nodes) (fresh : u ∉ order) (notReady : ¬ Ready waits nodes order u)
    (knot : Knot (Blocks waits nodes order) u) :
    Explains waits nodes (order ++ [u]) (forced ++ [u]) where
  nodup := List.concat_eq_append ▸ h.nodup.concat fresh
  subset v inOrder := by
    rcases List.mem_append.1 inOrder with old | last
    · exact h.subset v old
    · exact List.mem_singleton.1 last ▸ member
  sublist := h.sublist.append (List.Sublist.refl _)
  placed before v after split := by
    rcases append_singleton_split split with ⟨rfl, rfl⟩ | ⟨rest, old⟩
    · exact Or.inr ⟨by simp, notReady, knot⟩
    · have ne : v ≠ u := by
        rintro rfl
        exact fresh (old ▸ by simp)
      rcases h.placed before v rest old with ⟨free, ready⟩ | ⟨inForced, rest⟩
      · exact Or.inl ⟨by simp [free, ne], ready⟩
      · exact Or.inr ⟨List.mem_append_left _ inForced, rest⟩

theorem Sweep.explains {us emitted out forced : List β} (h : Sweep waits nodes us emitted out)
    (inside : ∀ u ∈ us, u ∈ nodes) (explained : Explains waits nodes emitted forced) :
    Explains waits nodes out forced := by
  induction h with
  | done => exact explained
  | emit fresh ready _ ih =>
      exact ih (fun v member => inside v (List.mem_cons_of_mem _ member))
        (explained.emit (inside _ List.mem_cons_self) fresh ready)
  | skip _ _ ih => exact ih (fun v member => inside v (List.mem_cons_of_mem _ member)) explained

/-- **Repeated passes emit every node once, and force knots only.** -/
theorem Sweeps.explains {emitted forced order allForced : List β}
    (h : Sweeps waits nodes emitted forced order allForced)
    (explained : Explains waits nodes emitted forced) :
    Explains waits nodes order allForced ∧ ∀ u ∈ nodes, u ∈ order := by
  induction h with
  | finished all => exact ⟨explained, all⟩
  | sweep pass _ _ ih => exact ih (pass.explains (fun _ member => member) explained)
  | force idle first _ ih =>
      obtain ⟨member, fresh, knot⟩ := first.mem
      have notReady := (idle.idle _ member).resolve_left fresh
      exact ih (explained.force member fresh notReady knot)

/-! ## Other nodes -/

section Map

variable {waits' : γ → γ → Prop} (f : β → γ)
  (injective : ∀ u ∈ nodes, ∀ v ∈ nodes, f u = f v → u = v)
  (same : ∀ u ∈ nodes, ∀ v ∈ nodes, waits u v ↔ waits' (f u) (f v))

include injective

theorem mem_map_of_injective {us : List β} (inside : ∀ u ∈ us, u ∈ nodes) {v : β}
    (member : v ∈ nodes) : f v ∈ us.map f ↔ v ∈ us := by
  constructor
  · intro inMap
    obtain ⟨u, inUs, eq⟩ := List.mem_map.1 inMap
    exact injective u (inside u inUs) v member eq ▸ inUs
  · exact List.mem_map_of_mem

include same

theorem ready_map_iff {emitted : List β} (inside : ∀ u ∈ emitted, u ∈ nodes) {u : β}
    (member : u ∈ nodes) :
    Ready waits' (nodes.map f) (emitted.map f) (f u) ↔ Ready waits nodes emitted u := by
  constructor
  · intro ready v inNodes awaits
    have image := ready (f v) (List.mem_map_of_mem inNodes) ((same u member v inNodes).1 awaits)
    exact (mem_map_of_injective f injective inside inNodes).1 image
  · intro ready w inMap awaits
    obtain ⟨v, inNodes, rfl⟩ := List.mem_map.1 inMap
    exact List.mem_map_of_mem (ready v inNodes ((same u member v inNodes).2 awaits))

theorem blocks_map_iff {emitted : List β} (inside : ∀ u ∈ emitted, u ∈ nodes) {u v : β}
    (uMember : u ∈ nodes) (vMember : v ∈ nodes) :
    Blocks waits' (nodes.map f) (emitted.map f) (f u) (f v) ↔ Blocks waits nodes emitted u v := by
  rw [Blocks, Blocks, same u uMember v vMember, mem_map_of_injective f injective inside vMember]
  simp [vMember, List.mem_map_of_mem vMember]

/-- A walk between images comes from a walk between nodes. -/
theorem reaches_map {emitted : List β} (inside : ∀ u ∈ emitted, u ∈ nodes) {u : β}
    (member : u ∈ nodes) {w : γ}
    (walk : Reaches (Blocks waits' (nodes.map f) (emitted.map f)) (f u) w) :
    ∃ v ∈ nodes, f v = w ∧ Reaches (Blocks waits nodes emitted) u v := by
  induction walk with
  | refl => exact ⟨u, member, rfl, .refl⟩
  | @tail a b _ step ih =>
      obtain ⟨v, vMember, rfl, walk⟩ := ih
      obtain ⟨t, tMember, rfl⟩ := List.mem_map.1 step.2.1
      exact ⟨t, tMember, rfl,
        walk.tail ((blocks_map_iff f injective same inside vMember tMember).1 step)⟩

theorem reaches_map_iff {emitted : List β} (inside : ∀ u ∈ emitted, u ∈ nodes) {u v : β}
    (uMember : u ∈ nodes) (vMember : v ∈ nodes) :
    Reaches (Blocks waits' (nodes.map f) (emitted.map f)) (f u) (f v) ↔
      Reaches (Blocks waits nodes emitted) u v := by
  constructor
  · intro walk
    obtain ⟨t, tMember, eq, walk⟩ := reaches_map f injective same inside uMember walk
    exact injective t tMember v vMember eq ▸ walk
  · intro walk
    induction walk with
    | refl => exact .refl
    | @tail a b before step ih =>
        have aMember : a ∈ nodes := by
          cases before with
          | refl => exact uMember
          | tail _ last => exact last.2.1
        exact (ih aMember).tail ((blocks_map_iff f injective same inside aMember step.2.1).2 step)

theorem knot_map_iff {emitted : List β} (inside : ∀ u ∈ emitted, u ∈ nodes) {u : β}
    (member : u ∈ nodes) :
    Knot (Blocks waits' (nodes.map f) (emitted.map f)) (f u) ↔
      Knot (Blocks waits nodes emitted) u := by
  constructor
  · intro knot v walk
    have vMember : v ∈ nodes := by
      cases walk with
      | refl => exact member
      | tail _ last => exact last.2.1
    have back := knot (f v) ((reaches_map_iff f injective same inside member vMember).2 walk)
    exact (reaches_map_iff f injective same inside vMember member).1 back
  · intro knot w walk
    obtain ⟨v, vMember, rfl, there⟩ := reaches_map f injective same inside member walk
    exact (reaches_map_iff f injective same inside vMember member).2 (knot v there)

theorem Sweep.map {us emitted out : List β} (h : Sweep waits nodes us emitted out)
    (inside : ∀ u ∈ us, u ∈ nodes) (old : ∀ u ∈ emitted, u ∈ nodes) :
    Sweep waits' (nodes.map f) (us.map f) (emitted.map f) (out.map f) := by
  induction h with
  | done => exact .done _
  | @emit u us emitted out fresh ready _ ih =>
      have member : u ∈ nodes := inside u List.mem_cons_self
      have rest := ih (fun v later => inside v (List.mem_cons_of_mem u later))
        (fun v inOut => by
          rcases List.mem_append.1 inOut with before | last
          · exact old v before
          · exact List.mem_singleton.1 last ▸ member)
      rw [List.map_append, List.map_singleton] at rest
      exact .emit (fun image => fresh ((mem_map_of_injective f injective old member).1 image))
        ((ready_map_iff f injective same old member).2 ready) rest
  | @skip u us emitted out idle _ ih =>
      have member : u ∈ nodes := inside u List.mem_cons_self
      refine .skip ?_ (ih (fun v later => inside v (List.mem_cons_of_mem u later)) old)
      rw [mem_map_of_injective f injective old member, ready_map_iff f injective same old member]
      exact idle

/-- The same passes order other nodes of the same shape. -/
theorem Sweeps.map {emitted forced order allForced : List β}
    (h : Sweeps waits nodes emitted forced order allForced) (old : ∀ u ∈ emitted, u ∈ nodes) :
    Sweeps waits' (nodes.map f) (emitted.map f) (forced.map f) (order.map f)
      (allForced.map f) := by
  induction h with
  | finished all =>
      refine .finished fun w image => ?_
      obtain ⟨u, member, rfl⟩ := List.mem_map.1 image
      exact List.mem_map_of_mem (all u member)
  | @sweep emitted forced out order allForced pass moved _ ih =>
      have inside : ∀ u ∈ out, u ∈ nodes := fun u inOut => (pass.subset inOut).elim (old u) id
      refine .sweep (pass.map f injective same (fun _ member => member) old) (fun images => ?_)
        (ih inside)
      have lengths := congrArg List.length images
      rw [List.length_map, List.length_map] at lengths
      exact moved (pass.isPrefix.eq_of_length lengths.symm).symm
  | @force emitted forced order allForced u idle first _ ih =>
      have member : u ∈ nodes := first.mem.1
      have rest := ih fun v inOut => by
        rcases List.mem_append.1 inOut with before | last
        · exact old v before
        · exact List.mem_singleton.1 last ▸ member
      rw [List.map_append, List.map_append, List.map_singleton] at rest
      refine .force (idle.map f injective same (fun _ member => member) old) ?_ rest
      refine first.map f fun v vMember => ?_
      rw [mem_map_of_injective f injective old vMember, knot_map_iff f injective same old vMember]

end Map

end Marking
