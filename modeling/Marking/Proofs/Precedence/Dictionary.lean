/-
# Marking.Proofs.Precedence.Dictionary -- the components of any finite graph

The search works on numbers.  A graph is given as a dictionary: its keys, and for every key the
list of its neighbours, in any order and as often as they come.  `Numbered` says that numbers
stand for the keys; which ones does not matter (`IsPartition.of_numbered`).

`search_finds_components`: on every dictionary whose neighbours are keys the search ends and
returns the keys cut into the classes of those that reach each other.  The blocked positions of
`passes` are such a dictionary, and so is a precedence as a whole.
-/
import Marking.Proofs.Precedence.Knots

set_option autoImplicit false

namespace Marking.Precedence

variable {β : Type} {bound : Nat} {next : Nat → List Nat} {number : β → Nat} {keys : List β}
  {neighbours : β → List β}

/-- Numbers below the bound stand for the keys, and `next` for the neighbours. -/
structure Numbered (bound : Nat) (next : Nat → List Nat) (number : β → Nat) (keys : List β)
    (neighbours : β → List β) : Prop where
  /-- Neighbours are keys. -/
  inside : ∀ a ∈ keys, ∀ b ∈ neighbours a, b ∈ keys
  injective : ∀ a ∈ keys, ∀ b ∈ keys, number a = number b → a = b
  lt_bound : ∀ a ∈ keys, number a < bound
  next_eq : ∀ a ∈ keys, next (number a) = (neighbours a).map number

/-- What the search does on a dictionary. -/
structure FindsComponents (bound : Nat) (next : Nat → List Nat) (number : β → Nat) (keys : List β)
    (neighbours : β → List β) : Prop where
  /-- The loop of every root ends: whatever keys were taken as roots, no frame is left. -/
  ends : ∀ roots, roots <+: keys →
    ((roots.map number).foldl (Traversal.searchFrom next (effort next (keys.map number)))
      (Traversal.start bound)).frames = []
  /-- What is found is a partition of the keys. -/
  finds : ∃ components, componentsOf bound next (keys.map number) =
      components.map (List.map number) ∧ IsPartition neighbours keys components

/-- A list of images is the image of a list. -/
theorem exists_map_eq {γ δ : Type} {f : γ → δ} {among : γ → Prop} (ys : List δ)
    (images : ∀ y ∈ ys, ∃ x, among x ∧ f x = y) :
    ∃ xs : List γ, (∀ x ∈ xs, among x) ∧ xs.map f = ys := by
  induction ys with
  | nil => exact ⟨[], by simp, rfl⟩
  | cons y ys ih =>
      obtain ⟨x, found, rfl⟩ := images y List.mem_cons_self
      obtain ⟨xs, founds, rfl⟩ := ih fun z member => images z (List.mem_cons_of_mem _ member)
      exact ⟨x :: xs, List.forall_mem_cons.2 ⟨found, founds⟩, rfl⟩

namespace Numbered

variable (d : Numbered bound next number keys neighbours)

include d

theorem within : Within bound next (keys.map number) where
  lt_bound x member := by
    obtain ⟨a, key, rfl⟩ := List.mem_map.1 member
    exact d.lt_bound a key
  next_mem x member y edge := by
    obtain ⟨a, key, rfl⟩ := List.mem_map.1 member
    rw [d.next_eq a key] at edge
    obtain ⟨b, neighbour, rfl⟩ := List.mem_map.1 edge
    exact List.mem_map_of_mem (d.inside a key b neighbour)

/-- What a key reaches is a key. -/
theorem mem_of_walk {a b : β} (key : a ∈ keys) (walk : Walk neighbours a b) : b ∈ keys :=
  Reaches.mem_of_closed (· ∈ keys) (fun a b inKeys edge => d.inside a inKeys b edge) key walk

theorem mem_map_iff {a : β} (key : a ∈ keys) {as : List β} (inside : ∀ b ∈ as, b ∈ keys) :
    number a ∈ as.map number ↔ a ∈ as := by
  refine ⟨fun member => ?_, List.mem_map_of_mem⟩
  obtain ⟨b, bMember, same⟩ := List.mem_map.1 member
  exact d.injective b (inside b bMember) a key same ▸ bMember

/-- Walks of numbers are walks of keys. -/
theorem exists_walk {a : β} (key : a ∈ keys) {y : Nat} (walk : Walk next (number a) y) :
    ∃ b ∈ keys, number b = y ∧ Walk neighbours a b := by
  induction walk with
  | refl => exact ⟨a, key, rfl, .refl⟩
  | tail _ edge ih =>
      obtain ⟨b, bKey, rfl, walk⟩ := ih
      rw [d.next_eq b bKey] at edge
      obtain ⟨c, neighbour, rfl⟩ := List.mem_map.1 edge
      exact ⟨c, d.inside b bKey c neighbour, rfl, walk.tail neighbour⟩

theorem walk_iff {a b : β} (aKey : a ∈ keys) (bKey : b ∈ keys) :
    Walk next (number a) (number b) ↔ Walk neighbours a b := by
  constructor
  · intro walk
    obtain ⟨c, cKey, same, walk⟩ := d.exists_walk aKey walk
    exact d.injective c cKey b bKey same ▸ walk
  · intro walk
    induction walk with
    | refl => exact .refl
    | tail walk neighbour ih =>
        have key := d.mem_of_walk aKey walk
        refine (ih key).tail ?_
        rw [d.next_eq _ key]
        exact List.mem_map_of_mem neighbour

/-- A partition of the numbers is one of the keys. -/
theorem isPartition {found : List (List Nat)} (parts : IsPartition next (keys.map number) found) :
    ∃ components, found = components.map (List.map number) ∧
      IsPartition neighbours keys components := by
  obtain ⟨components, inside, rfl⟩ : ∃ components : List (List β),
      (∀ c ∈ components, ∀ a ∈ c, a ∈ keys) ∧ components.map (List.map number) = found := by
    refine exists_map_eq found fun c listed => exists_map_eq c fun x member => ?_
    exact List.mem_map.1 ((parts.mem_iff x).1 (List.mem_flatten.2 ⟨c, listed, member⟩))
  have flat : (components.map (List.map number)).flatten = components.flatten.map number :=
    List.map_flatten.symm
  have insideAll : ∀ a ∈ components.flatten, a ∈ keys := by
    intro a member
    obtain ⟨c, listed, member⟩ := List.mem_flatten.1 member
    exact inside c listed a member
  refine ⟨components, rfl, ?_, fun c listed => ?_, fun a => ⟨insideAll a, fun key => ?_⟩,
    fun c listed a aMember b => ?_⟩
  · exact List.Nodup.of_map number (flat ▸ parts.nodup)
  · simpa using parts.ne_nil (c.map number) (List.mem_map_of_mem listed)
  · have found := (parts.mem_iff (number a)).2 (List.mem_map_of_mem key)
    rw [flat] at found
    exact (d.mem_map_iff key insideAll).1 found
  · have aKey := inside c listed a aMember
    have together := parts.together (c.map number) (List.mem_map_of_mem listed) (number a)
      (List.mem_map_of_mem aMember)
    by_cases bKey : b ∈ keys
    · rw [← d.mem_map_iff bKey (inside c listed), together, d.walk_iff aKey bKey, d.walk_iff bKey aKey]
    · exact iff_of_false (fun member => bKey (inside c listed b member))
        fun walks => bKey (d.mem_of_walk aKey walks.1)

theorem findsComponents : FindsComponents bound next number keys neighbours where
  ends _ first := searchAll_ends d.within (first.map number)
  finds := d.isPartition (componentsOf_isPartition d.within)

end Numbered

/-- A graph of positions needs no other numbers. -/
theorem Within.numbered {nodes : List Nat} (w : Within bound next nodes) :
    Numbered bound next id nodes next where
  inside := w.next_mem
  injective _ _ _ _ same := same
  lt_bound := w.lt_bound
  next_eq _ _ := (List.map_id _).symm

/-- **The search finds the components of every finite graph**, and it ends: whatever the keys
are, however often and in whatever order their neighbours come.  So it does on the blocked
positions in every state of the passes, and on all positions. -/
theorem search_finds_components :
    (∀ (β : Type) (keys : List β) (neighbours : β → List β) (number : β → Nat) (bound : Nat)
      (next : Nat → List Nat), Numbered bound next number keys neighbours →
        FindsComponents bound next number keys neighbours) ∧
    ∀ p : Precedence,
      (∀ s : Passes, FindsComponents p.size (fun i => (p.needsOf i).filter (s.blocked p).contains) id
        (s.blocked p) fun i => (p.needsOf i).filter (s.blocked p).contains) ∧
      FindsComponents p.size p.needsOf id p.positions p.needsOf := by
  refine ⟨fun β keys neighbours number bound next d => d.findsComponents, fun p => ⟨fun s => ?_, ?_⟩⟩
  · have inside : ∀ i ∈ s.blocked p, i < p.size := by
      intro i member
      simpa [positions] using (List.mem_filter.1 member).1
    exact (within_awaited inside).numbered.findsComponents
  · have w : Within p.size p.needsOf p.positions :=
      ⟨fun i member => by simpa [positions] using member, fun i _ j need => by
        simpa [positions] using p.lt_size_of_mem_needsOf need⟩
    exact w.numbered.findsComponents

namespace Sample

/-- A ring of three rooms with a doubled door, a room with a door to itself and into the ring,
and one behind the ring. -/
inductive Room where
  | hall
  | kitchen
  | pantry
  | porch
  | cellar
  deriving DecidableEq

def doors : Room → List Room
  | .hall => [.kitchen, .kitchen]
  | .kitchen => [.pantry]
  | .pantry => [.cellar, .hall]
  | .porch => [.hall, .porch]
  | .cellar => []

def rooms : List Room := [.porch, .hall, .kitchen, .pantry, .cellar]

def doorsOf (i : Nat) : List Nat := ((rooms[i]?).elim [] doors).map rooms.idxOf

theorem numbered_rooms : Numbered 5 doorsOf rooms.idxOf rooms doors :=
  ⟨by decide, by decide, by decide, by decide⟩

theorem components_of_rooms :
    Numbered 5 doorsOf rooms.idxOf rooms doors ∧
      FindsComponents 5 doorsOf rooms.idxOf rooms doors :=
  ⟨numbered_rooms,
    search_finds_components.1 Room rooms doors rooms.idxOf 5 doorsOf numbered_rooms⟩

example : componentsOf 5 doorsOf (rooms.map rooms.idxOf) = [[4], [3, 2, 1], [0]] := by
  decide +kernel

end Sample

end Marking.Precedence
