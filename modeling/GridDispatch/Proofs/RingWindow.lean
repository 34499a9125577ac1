/-
The window of a ring, and what it says about the queue.

A ring stores its items in the slots from `start` up to `stop`, going round at the
end of the array. `Holds` is that sentence as an invariant: slot `j` lies at a
distance from `start`, counted in the direction of the queue, and its content is the
item at that distance if there is one. Stated this way it is one equation for a slot,
whether or not the window has gone round and whether the slot is inside of it, and no
proof below has to tell these cases apart more than once.

The positions wrap by a comparison and a subtraction here (`position`), while the
operations reduce modulo the capacity; `mod_eq_position` is the bridge.

What is proved, one lemma for each operation, is that a step answers what the list
answers and keeps the invariant. The lemmas on pushing also say what becomes of the
capacity, since the number of slots is visible from outside.
-/
import GridDispatch.Schedule.Ring
import Mathlib.Data.List.Infix

set_option autoImplicit false

namespace GridDispatch

namespace Ring

variable {α : Type}

/-- Half a word: no array in memory has so many slots. -/
abbrev halfWord : Nat := 9223372036854775808

/-! ## Positions on the ring -/

/-- The slot a number of steps behind `start`. -/
def position (capacity start steps : Nat) : Nat :=
  if start + steps < capacity then start + steps else start + steps - capacity

/-- The number of steps from `start` to a slot. -/
def distance (capacity start slot : Nat) : Nat :=
  if start ≤ slot then slot - start else slot + capacity - start

theorem position_lt {capacity start steps : Nat} (hs : start < capacity) (hi : steps < capacity) :
    position capacity start steps < capacity := by
  unfold position
  split <;> omega

theorem distance_position {capacity start steps : Nat} (hs : start < capacity)
    (hi : steps < capacity) : distance capacity start (position capacity start steps) = steps := by
  unfold distance position
  split <;> split <;> omega

/-- Different slots lie at different distances. -/
theorem distance_eq_iff {capacity start slot steps : Nat} (hs : start < capacity)
    (hj : slot < capacity) (hi : steps < capacity) :
    distance capacity start slot = steps ↔ slot = position capacity start steps := by
  unfold distance position
  split <;> split <;> omega

/-- Reduction modulo the capacity is one comparison, as both positions lie on the ring. -/
theorem mod_eq_position {capacity start steps : Nat} (hs : start < capacity)
    (hi : steps ≤ capacity) : (start + steps) % capacity = position capacity start steps := by
  unfold position
  split
  · next h => exact Nat.mod_eq_of_lt h
  · next h => rw [Nat.mod_eq_sub_mod (by omega), Nat.mod_eq_of_lt (by omega)]

/-! ## The invariant -/

/-- The ring has slots, and they hold these items from front to back. -/
structure Holds (q : Ring α) (items : List α) : Prop where
  start_lt : q.start < q.capacity
  /-- One slot stays empty. -/
  room : items.length < q.capacity
  stop_eq : q.stop = position q.capacity q.start items.length
  slot_eq : ∀ j, j < q.capacity → q.slots[j]? = some items[distance q.capacity q.start j]?

/-- The ring stores these items: it either has no slots yet, or holds them. -/
def Stores (q : Ring α) (items : List α) : Prop :=
  q = empty ∧ items = [] ∨ q.Holds items

theorem stores_empty : (empty : Ring α).Stores [] :=
  .inl ⟨rfl, rfl⟩

/-- The invariant of a ring that an operation has just put together, over whatever
expression its capacity is known by. -/
theorem holds_mk {slots : Array (Option α)} {start stop capacity : Nat} {items : List α}
    (hsize : slots.size = capacity) (hstart : start < capacity) (hroom : items.length < capacity)
    (hstop : stop = position capacity start items.length)
    (hslot : ∀ j, j < capacity → slots[j]? = some items[distance capacity start j]?) :
    Holds ⟨slots, start, stop⟩ items := by
  subst hsize
  exact ⟨hstart, hroom, hstop, hslot⟩

/-- The slot of an item is found by going its place in the queue round from `start`. -/
theorem Holds.slot_position {q : Ring α} {items : List α} (h : q.Holds items) {i : Nat}
    (hi : i < q.capacity) : q.slots[position q.capacity q.start i]? = some items[i]? := by
  rw [h.slot_eq _ (position_lt h.start_lt hi), distance_position h.start_lt hi]

theorem Holds.stop_lt {q : Ring α} {items : List α} (h : q.Holds items) : q.stop < q.capacity := by
  rw [h.stop_eq]
  exact position_lt h.start_lt h.room

/-! ## Looking at a ring -/

theorem Stores.length_eq {q : Ring α} {items : List α} (h : q.Stores items) :
    q.length = items.length := by
  rcases h with ⟨rfl, rfl⟩ | h
  · rfl
  · have hs := h.start_lt
    have hr := h.room
    rw [length, h.stop_eq]
    unfold position
    split <;> split <;> omega

theorem Stores.isEmpty_eq {q : Ring α} {items : List α} (h : q.Stores items) :
    q.isEmpty = items.isEmpty := by
  have hempty : q.start = q.stop ↔ items = [] := by
    rcases h with ⟨rfl, rfl⟩ | h
    · exact iff_of_true rfl rfl
    · have hs := h.start_lt
      have hr := h.room
      rw [h.stop_eq, ← List.length_eq_zero_iff]
      unfold position
      split <;> omega
  rw [Bool.eq_iff_iff, isEmpty, beq_iff_eq, hempty, List.isEmpty_iff]

/-- Looking up all places of a list gives the list. -/
theorem filterMap_getElem?_range (items : List α) :
    (List.range items.length).filterMap (fun i => items[i]?) = items := by
  induction items with
  | nil => rfl
  | cons x xs ih =>
      rw [List.length_cons, List.range_succ_eq_map, List.filterMap_cons, List.filterMap_map]
      simpa [Function.comp_def] using ih

theorem Stores.toList_eq {q : Ring α} {items : List α} (h : q.Stores items) :
    q.toList = items := by
  have hslot : ∀ i ∈ List.range items.length, q.slot? i = items[i]? := by
    intro i hi
    rw [List.mem_range] at hi
    rcases h with ⟨-, rfl⟩ | h
    · simp at hi
    · have hr := h.room
      have hs := h.start_lt
      rw [slot?, Nat.max_eq_left (by omega), mod_eq_position hs (by omega),
        h.slot_position (by omega), Option.join_some]
  rw [toList, h.length_eq, List.filterMap_congr hslot, filterMap_getElem?_range]

/-- Looking up the places from a first one on gives the rest of the list. -/
theorem filterMap_getElem?_add (items : List α) (first count : Nat)
    (h : items.length ≤ first + count) :
    (List.range count).filterMap (fun i => items[i + first]?) = items.drop first := by
  have hdrop : (items.drop first).length ≤ count := by
    rw [List.length_drop]
    omega
  obtain ⟨spare, rfl⟩ := Nat.exists_eq_add_of_le hdrop
  have hlook : ∀ i, items[i + first]? = (items.drop first)[i]? := by
    intro i
    rw [List.getElem?_drop, Nat.add_comm]
  rw [List.range_add, List.filterMap_append, List.filterMap_congr fun i _ => hlook i,
    filterMap_getElem?_range, List.filterMap_map, List.filterMap_eq_nil_iff.mpr, List.append_nil]
  intro i _
  rw [Function.comp_apply, hlook, List.getElem?_eq_none (Nat.le_add_right _ _)]

/-- Looking up the places before a bound gives the front of the list. -/
theorem filterMap_getElem?_take (items : List α) (count : Nat) :
    (List.range count).filterMap (fun i => items[i]?) = items.take count := by
  induction count with
  | zero => rfl
  | succ count ih =>
      rw [List.range_succ, List.filterMap_append, ih, List.take_add_one]
      rfl

/-- The order of the slots is that of the queue, except that items which had gone round
the end come first. -/
theorem Stores.slotOrder_eq {q : Ring α} {items : List α} (h : q.Stores items) :
    q.slotOrder = items.drop (q.capacity - q.start) ++ items.take (q.capacity - q.start) := by
  obtain ⟨rfl, rfl⟩ | h := h
  · rfl
  have hs := h.start_lt
  have hr := h.room
  -- the slots in their order, each by its distance from `start`
  have hslots : q.slots.toList
      = (List.range q.capacity).map fun j => items[distance q.capacity q.start j]? := by
    refine List.ext_getElem? fun j => ?_
    rw [Array.getElem?_toList, List.getElem?_map]
    by_cases hj : j < q.capacity
    · rw [h.slot_eq j hj, List.getElem?_range hj, Option.map_some]
    · rw [Array.getElem?_eq_none (Nat.not_lt.mp hj), List.getElem?_eq_none (by simpa using hj),
        Option.map_none]
  -- they fall into two runs: those before `start` are at the far end of the queue
  have hrange : List.range q.capacity
      = List.range q.start ++ (List.range (q.capacity - q.start)).map (q.start + ·) := by
    rw [← List.range_add, Nat.add_sub_cancel' (by omega)]
  have hround : ∀ j ∈ List.range q.start,
      items[distance q.capacity q.start j]? = items[j + (q.capacity - q.start)]? := by
    intro j hj
    rw [List.mem_range] at hj
    rw [distance, if_neg (by omega), Nat.add_sub_assoc (by omega)]
  have hahead : ∀ i ∈ List.range (q.capacity - q.start),
      items[distance q.capacity q.start (q.start + i)]? = items[i]? := by
    intro i _
    rw [distance, if_pos (by omega), Nat.add_sub_cancel_left]
  calc q.slotOrder
      = (List.range q.capacity).filterMap fun j => items[distance q.capacity q.start j]? := by
        rw [slotOrder, hslots, List.filterMap_map]
        rfl
    _ = (List.range q.start).filterMap (fun j => items[j + (q.capacity - q.start)]?)
          ++ (List.range (q.capacity - q.start)).filterMap (fun i => items[i]?) := by
        rw [hrange, List.filterMap_append, List.filterMap_map]
        exact congrArg₂ (· ++ ·) (List.filterMap_congr hround) (List.filterMap_congr hahead)
    _ = items.drop (q.capacity - q.start) ++ items.take (q.capacity - q.start) := by
        rw [filterMap_getElem?_add items _ _ (by omega), filterMap_getElem?_take]

/-- A ring that is dropped gives every item up once. -/
theorem Stores.slotOrder_perm {q : Ring α} {items : List α} (h : q.Stores items) :
    q.slotOrder.Perm items := by
  rw [h.slotOrder_eq]
  refine List.perm_append_comm.trans ?_
  rw [List.take_append_drop]

/-! ## Popping -/

theorem Stores.pop_nil {q : Ring α} (h : q.Stores []) : q.pop = .ok (none, q) := by
  have hpos : q.start = q.stop := by simpa [isEmpty] using h.isEmpty_eq
  rw [pop, if_pos hpos]

/-- Popping takes the front item out of its slot and moves `start` on. -/
theorem Stores.pop_cons {q : Ring α} {x : α} {xs : List α} (h : q.Stores (x :: xs))
    (hcap : q.capacity < word) :
    ∃ after, q.pop = .ok (some x, after) ∧ after.Stores xs ∧ after.capacity = q.capacity := by
  obtain ⟨-, hnil⟩ | h := h
  · simp at hnil
  have hs := h.start_lt
  have hr := h.room
  have hstop := h.stop_eq
  rw [List.length_cons] at hr hstop
  have hne : q.start ≠ q.stop := by
    rw [hstop]
    unfold position
    split <;> omega
  have hfront : q.slots[q.start]? = some (some x) := by
    have hslot := h.slot_position (i := 0) (by omega)
    rwa [position, Nat.add_zero, if_pos hs] at hslot
  have hsize : (q.slots.setIfInBounds q.start none).size = q.capacity :=
    Array.size_setIfInBounds
  refine ⟨⟨q.slots.setIfInBounds q.start none, position q.capacity q.start 1, q.stop⟩, ?_,
    .inr (holds_mk hsize ?_ ?_ ?_ ?_), hsize⟩
  · rw [pop, if_neg hne, hfront]
    dsimp only
    rw [Checked.add_eq_ok (by omega)]
    dsimp only
    rw [Checked.rem_eq_ok (by omega), mod_eq_position hs (by omega)]
  · exact position_lt hs (by omega)
  · exact (by omega : xs.length < q.capacity)
  · rw [hstop]
    unfold position
    split <;> split <;> split <;> omega
  · intro j (hj : j < q.capacity)
    rw [Array.getElem?_setIfInBounds]
    by_cases hfirst : q.start = j
    -- the slot just emptied is now the last one of all, a whole round away
    · have hfar : distance q.capacity (position q.capacity q.start 1) j = q.capacity - 1 := by
        unfold distance position
        split <;> split <;> omega
      rw [if_pos hfirst, if_pos (show q.start < q.slots.size from hs), hfar,
        List.getElem?_eq_none (by omega)]
    -- every other slot has come one step nearer, like the items
    · have hnear : distance q.capacity q.start j
          = distance q.capacity (position q.capacity q.start 1) j + 1 := by
        unfold distance position
        split <;> split <;> split <;> omega
      rw [if_neg hfirst, h.slot_eq j hj, hnear, List.getElem?_cons_succ]

/-! ## Growing -/

/-- The slots of a ring whose items had gone round, after it has grown: those before
`stop` are empty, and their contents stand behind the old end. -/
theorem getElem?_moved (q : Ring α) {spare j : Nat} (hb : q.stop ≤ q.capacity)
    (hj : j < q.capacity + q.stop + spare) :
    (Array.replicate q.stop none ++ q.slots.extract q.stop q.capacity
        ++ q.slots.extract 0 q.stop ++ Array.replicate spare none)[j]?
      = if j < q.stop then some none
        else if j < q.capacity then q.slots[j]?
        else if j < q.capacity + q.stop then q.slots[j - q.capacity]?
        else some none := by
  have hcap : q.slots.size = q.capacity := rfl
  -- where each of the four pieces ends
  have hkept : (Array.replicate q.stop none ++ q.slots.extract q.stop q.capacity).size
      = q.capacity := by
    simp only [Array.size_append, Array.size_replicate, Array.size_extract]
    omega
  have hmoved : (Array.replicate q.stop none ++ q.slots.extract q.stop q.capacity
      ++ q.slots.extract 0 q.stop).size = q.capacity + q.stop := by
    rw [Array.size_append, hkept, Array.size_extract]
    omega
  rw [Array.getElem?_append, hmoved, Array.getElem?_append, hkept, Array.getElem?_append,
    Array.size_replicate]
  by_cases h1 : j < q.stop
  · rw [if_pos (by omega), if_pos (by omega), if_pos h1, if_pos h1, Array.getElem?_replicate,
      if_pos h1]
  by_cases h2 : j < q.capacity
  · rw [if_pos (by omega), if_pos h2, if_neg h1, if_neg h1, if_pos h2,
      Array.getElem?_extract_of_lt (by omega), ← Array.getElem?_eq_getElem,
      Nat.add_sub_cancel' (by omega)]
  by_cases h3 : j < q.capacity + q.stop
  · rw [if_pos h3, if_neg h2, if_neg h1, if_neg h2, if_pos h3,
      Array.getElem?_extract_of_lt (by omega), ← Array.getElem?_eq_getElem, Nat.zero_add]
  · rw [if_neg h3, if_neg h1, if_neg h2, if_neg h3, Array.getElem?_replicate,
      if_pos (by omega)]

/-- The number of slots after growing. -/
def grownCapacity (capacity : Nat) : Nat :=
  max (capacity * 2) minCapacity

theorem two_mul_le_grownCapacity (capacity : Nat) : capacity * 2 ≤ grownCapacity capacity :=
  Nat.le_max_left _ _

theorem grownCapacity_pos (capacity : Nat) : 0 < grownCapacity capacity :=
  Nat.lt_of_lt_of_le (by decide) (Nat.le_max_right _ minCapacity)

/-- Beyond the last item it does not matter how far. -/
theorem getElem?_eq_of_beyond {items : List α} {i j : Nat}
    (h : i = j ∨ items.length ≤ i ∧ items.length ≤ j) : items[i]? = items[j]? := by
  rcases h with rfl | ⟨hi, hj⟩
  · rfl
  · rw [List.getElem?_eq_none hi, List.getElem?_eq_none hj]

/-- Growing keeps the items and their order, and none of them lies round the end
afterwards. -/
theorem Stores.grow_eq {q : Ring α} {items : List α} (h : q.Stores items)
    (hcap : q.capacity * 2 < word) :
    ∃ grown, q.grow = .ok (grown, ⟨q.capacity, grownCapacity q.capacity⟩)
      ∧ grown.Holds items ∧ grown.capacity = grownCapacity q.capacity
      ∧ grown.start = q.start := by
  have hpos := grownCapacity_pos q.capacity
  have hdouble := two_mul_le_grownCapacity q.capacity
  rw [grow, Checked.mul_eq_ok hcap]
  dsimp only
  rw [← grownCapacity]
  obtain ⟨rfl, rfl⟩ | h := h
  -- the first slots are allocated, and all of them are empty
  · refine ⟨_, rfl, holds_mk rfl hpos hpos rfl ?_, ?_, rfl⟩
    · intro j hj
      have hnew : j < grownCapacity (empty : Ring α).capacity - (empty : Ring α).capacity := by
        simpa [empty, capacity] using hj
      rw [List.getElem?_nil, Array.getElem?_append,
        if_neg (show ¬ j < (empty : Ring α).slots.size from Nat.not_lt_zero j),
        Array.getElem?_replicate]
      exact if_pos hnew
    · rfl
  have hs := h.start_lt
  have hr := h.room
  have hstop := h.stop_eq
  by_cases hround : q.stop < q.start
  -- the items from slot 0 up to `stop` move behind the old end
  · have hend : q.stop + q.capacity = q.start + items.length := by
      unfold position at hstop
      split at hstop <;> omega
    have hsize : (Array.replicate q.stop none ++ q.slots.extract q.stop q.capacity
        ++ q.slots.extract 0 q.stop
        ++ Array.replicate (grownCapacity q.capacity - q.capacity - q.stop) none).size
          = grownCapacity q.capacity := by
      simp only [Array.size_append, Array.size_replicate, Array.size_extract, capacity]
        at hdouble hs ⊢
      omega
    rw [if_pos hround, if_pos (by omega), Checked.add_eq_ok (by omega)]
    refine ⟨_, rfl, holds_mk hsize (by omega) (by omega) ?_ ?_, hsize, rfl⟩
    · rw [hend, position, if_pos (by omega)]
    · intro j hj
      rw [getElem?_moved q (by omega) (by omega)]
      by_cases h1 : j < q.stop
      · rw [if_pos h1, List.getElem?_eq_none (by unfold distance; split <;> omega)]
      by_cases h2 : j < q.capacity
      · rw [if_neg h1, if_pos h2, h.slot_eq j h2]
        exact congrArg some (getElem?_eq_of_beyond (by unfold distance; split <;> omega))
      by_cases h3 : j < q.capacity + q.stop
      · rw [if_neg h1, if_neg h2, if_pos h3, h.slot_eq _ (by omega)]
        exact congrArg some (getElem?_eq_of_beyond (by unfold distance; split <;> split <;> omega))
      · rw [if_neg h1, if_neg h2, if_neg h3,
          List.getElem?_eq_none (by unfold distance; split <;> omega)]
  -- the items lie in one piece, and new slots behind the old end are all there is to do
  · have hlast := h.stop_lt
    have hend : q.stop = q.start + items.length := by
      unfold position at hstop
      split at hstop <;> omega
    have hsize : (q.slots ++ Array.replicate (grownCapacity q.capacity - q.capacity) none).size
        = grownCapacity q.capacity := by
      simp only [Array.size_append, Array.size_replicate, capacity] at hdouble ⊢
      omega
    rw [if_neg hround]
    refine ⟨_, rfl, holds_mk hsize (by omega) (by omega) ?_ ?_, hsize, rfl⟩
    · rw [hend, position, if_pos (by omega)]
    · intro j hj
      rw [Array.getElem?_append]
      by_cases h1 : j < q.capacity
      · rw [if_pos (show j < q.slots.size from h1), h.slot_eq j h1]
        exact congrArg some (getElem?_eq_of_beyond (by unfold distance; split <;> omega))
      · have hnew : j - q.slots.size < grownCapacity q.capacity - q.capacity := by
          simp only [capacity] at hj h1 ⊢
          omega
        rw [if_neg (show ¬ j < q.slots.size from h1), Array.getElem?_replicate, if_pos hnew,
          List.getElem?_eq_none (by unfold distance; split <;> omega)]

/-! ## Pushing -/

/-- Filling the slot at `stop`, as long as another one stays empty. -/
theorem Holds.place_eq {q : Ring α} {items : List α} (h : q.Holds items) (item : α)
    (hroom : items.length + 1 < q.capacity) :
    ∃ after, q.place item (position q.capacity q.start (items.length + 1)) = .ok after
      ∧ after.Holds (items ++ [item]) ∧ after.capacity = q.capacity := by
  have hs := h.start_lt
  have hsize : (q.slots.setIfInBounds q.stop (some item)).size = q.capacity :=
    Array.size_setIfInBounds
  have hlen : (items ++ [item]).length = items.length + 1 := List.length_append
  refine ⟨_, if_pos h.stop_lt, holds_mk hsize hs (by omega) (by rw [hlen]) ?_, hsize⟩
  intro j hj
  rw [Array.getElem?_setIfInBounds]
  -- `stop` is the one slot as far away as there are items
  by_cases hlast : q.stop = j
  · have hdist : distance q.capacity q.start j = items.length := by
      rw [← hlast, h.stop_eq, distance_position hs (by omega)]
    rw [if_pos hlast, if_pos (show q.stop < q.slots.size from h.stop_lt), hdist,
      List.getElem?_concat_length]
  · have hdist : distance q.capacity q.start j ≠ items.length := by
      rw [Ne, distance_eq_iff hs hj (by omega), ← h.stop_eq]
      exact fun heq => hlast heq.symm
    rw [if_neg hlast, h.slot_eq j hj]
    by_cases hin : distance q.capacity q.start j < items.length
    · rw [List.getElem?_append_left hin]
    · rw [List.getElem?_eq_none (by omega), List.getElem?_eq_none (by omega)]

/-- The slot after the last item is `start` exactly when the ring has no room left. -/
theorem Stores.next_eq_start {q : Ring α} {items : List α} (h : q.Stores items) :
    (if q.capacity ≤ q.stop + 1 then 0 else q.stop + 1) = q.start
      ↔ q.capacity ≤ items.length + 1 := by
  obtain ⟨rfl, rfl⟩ | h := h
  · exact iff_of_true rfl (Nat.zero_le _)
  · have hs := h.start_lt
    have hr := h.room
    rw [h.stop_eq]
    unfold position
    split <;> split <;> omega

/-- Pushing where there is room keeps the slots. -/
theorem Stores.push_of_room {q : Ring α} {items : List α} (h : q.Stores items) (item : α)
    (hcap : q.capacity < word) (hroom : items.length + 1 < q.capacity) :
    ∃ after, q.push item = .ok (after, none) ∧ after.Stores (items ++ [item])
      ∧ after.capacity = q.capacity := by
  have hnext := h.next_eq_start
  obtain ⟨rfl, -⟩ | h := h
  · exact absurd hroom (Nat.not_lt_zero _)
  have hs := h.start_lt
  have hlast := h.stop_lt
  obtain ⟨after, hplace, hholds, hsame⟩ := h.place_eq item hroom
  have hpos : (if q.capacity ≤ q.stop + 1 then 0 else q.stop + 1)
      = position q.capacity q.start (items.length + 1) := by
    rw [h.stop_eq]
    unfold position
    split <;> split <;> split <;> omega
  refine ⟨after, ?_, .inr hholds, hsame⟩
  rw [push, Checked.add_eq_ok (by omega)]
  dsimp only
  rw [if_neg (by rw [hnext]; omega), hpos, hplace]

/-- Pushing where there is no room grows first. -/
theorem Stores.push_of_full {q : Ring α} {items : List α} (h : q.Stores items) (item : α)
    (hcap : q.capacity * 2 < word) (hfull : q.capacity ≤ items.length + 1) :
    ∃ after, q.push item = .ok (after, some ⟨q.capacity, grownCapacity q.capacity⟩)
      ∧ after.Stores (items ++ [item]) ∧ after.capacity = grownCapacity q.capacity := by
  have hnext := h.next_eq_start
  obtain ⟨grown, hgrow, hholds, hsize, hstart⟩ := h.grow_eq hcap
  have hbounds : q.start + items.length + 1 < grownCapacity q.capacity
      ∧ q.stop + 1 ≤ grownCapacity q.capacity ∧ grownCapacity q.capacity < word := by
    have hdouble := two_mul_le_grownCapacity q.capacity
    have hless : grownCapacity q.capacity < word := Nat.max_lt.mpr ⟨hcap, by decide⟩
    obtain ⟨rfl, rfl⟩ | h := h
    · exact ⟨(by decide : 0 + 0 + 1 < grownCapacity 0), (by decide : 0 + 1 ≤ grownCapacity 0),
        hless⟩
    · have hs := h.start_lt
      have hr := h.room
      have hlast := h.stop_lt
      exact ⟨by omega, by omega, hless⟩
  obtain ⟨hfit, hsum, hless⟩ := hbounds
  obtain ⟨after, hplace, hafter, hsame⟩ := hholds.place_eq item (by omega)
  -- the items do not go round after growing, so `stop` is reached by counting on
  have hstop : grown.stop = q.start + items.length := by
    rw [hholds.stop_eq, hsize, hstart, position, if_pos (by omega)]
  have hpos : (grown.stop + 1) % grown.capacity
      = position grown.capacity grown.start (items.length + 1) := by
    rw [hstop, Nat.add_assoc, ← hstart, mod_eq_position (by omega) (by omega)]
  refine ⟨after, ?_, .inr hafter, by rw [hsame, hsize]⟩
  rw [push, Checked.add_eq_ok (by omega)]
  dsimp only
  rw [if_pos (hnext.mpr hfull), hgrow]
  dsimp only
  rw [Checked.add_eq_ok (by omega)]
  dsimp only
  rw [Checked.rem_eq_ok (by omega), hpos]
  dsimp only
  rw [hplace]

/-- What a push answers about growing, by the number of items before it. -/
def growthOf (capacity length : Nat) : Option Growth :=
  if length + 1 < capacity then none else some ⟨capacity, grownCapacity capacity⟩

/-- Pushing appends. It cannot fault as long as twice the number of items is a count. -/
theorem Stores.push_eq {q : Ring α} {items : List α} (h : q.Stores items) (item : α)
    (hcap : q.capacity < word) (hlen : 2 * (items.length + 1) < word) :
    ∃ after, q.push item = .ok (after, growthOf q.capacity items.length)
      ∧ after.Stores (items ++ [item]) ∧ after.capacity < word := by
  by_cases hroom : items.length + 1 < q.capacity
  · obtain ⟨after, hpush, hstores, hsame⟩ := h.push_of_room item hcap hroom
    rw [growthOf, if_pos hroom]
    exact ⟨after, hpush, hstores, by omega⟩
  · obtain ⟨after, hpush, hstores, hsize⟩ := h.push_of_full item (by omega) (by omega)
    rw [growthOf, if_neg hroom]
    exact ⟨after, hpush, hstores, by rw [hsize]; exact Nat.max_lt.mpr ⟨by omega, by decide⟩⟩

/-- Slots that can no longer be counted after doubling cannot be had. -/
theorem Stores.push_of_countless {q : Ring α} {items : List α} (h : q.Stores items) (item : α)
    (hfull : q.capacity ≤ items.length + 1) (hcap : word ≤ q.capacity * 2) :
    ∃ fault, q.push item = .error fault := by
  have hnext := h.next_eq_start.mpr hfull
  have hgrow : q.grow = .error (.arithmetic .mul) := by
    rw [grow, Checked.mul_eq_error hcap]
  rw [push]
  cases hadd : Checked.add word q.stop 1 with
  | error fault => exact ⟨fault, rfl⟩
  | ok sum =>
      obtain rfl : sum = q.stop + 1 := by
        unfold Checked.add at hadd
        split at hadd
        · exact (Except.ok.inj hadd).symm
        · cases hadd
      dsimp only
      rw [if_pos hnext, hgrow]
      exact ⟨_, rfl⟩

/-- The capacity after a push, by the number of items before it. -/
def pushedCapacity (capacity length : Nat) : Nat :=
  if length + 1 < capacity then capacity else grownCapacity capacity

/-- A push that cannot be sure of its slots either appends or faults and does nothing. -/
theorem Stores.push_cases {q : Ring α} {items : List α} (h : q.Stores items) (item : α)
    (hcap : q.capacity < word) :
    (∃ after, q.push item = .ok (after, growthOf q.capacity items.length)
        ∧ after.Stores (items ++ [item])
        ∧ after.capacity = pushedCapacity q.capacity items.length ∧ after.capacity < word)
      ∨ ∃ fault, q.push item = .error fault := by
  unfold growthOf pushedCapacity
  by_cases hroom : items.length + 1 < q.capacity
  · obtain ⟨after, hpush, hstores, hsame⟩ := h.push_of_room item hcap hroom
    simp only [if_pos hroom]
    exact .inl ⟨after, hpush, hstores, hsame, by omega⟩
  simp only [if_neg hroom]
  by_cases hdouble : q.capacity * 2 < word
  · obtain ⟨after, hpush, hstores, hsize⟩ := h.push_of_full item hdouble (by omega)
    exact .inl ⟨after, hpush, hstores, hsize,
      by rw [hsize]; exact Nat.max_lt.mpr ⟨hdouble, by decide⟩⟩
  · exact .inr (h.push_of_countless item (by omega) (by omega))

/-! ## Histories

A ring and a plain list are taken through the same actions. `Layout` is what the claim
about the slots says one by one, in the terms of the operations: the window is given by
remainders, and every slot outside of it is empty. -/

/-- What can be done to a queue. -/
inductive Action (α : Type) where
  | push (item : α)
  | pop
  | free
deriving DecidableEq, Repr

/-- One action on a ring: what it answers, and the ring afterwards. -/
def apply (q : Ring α) : Action α → Except Fault (Option α × Ring α)
  | .push item =>
    match q.push item with
    | .error fault => .error fault
    | .ok (after, _) => .ok (none, after)
  | .pop => q.pop
  | .free => .ok (none, empty)

/-- The answers to actions made one after another, and the ring afterwards. -/
def applyAll (q : Ring α) : List (Action α) → Except Fault (List (Option α) × Ring α)
  | [] => .ok ([], q)
  | action :: rest =>
    match q.apply action with
    | .error fault => .error fault
    | .ok (answer, after) =>
      match after.applyAll rest with
      | .error fault => .error fault
      | .ok (answers, last) => .ok (answer :: answers, last)

/-- The same action on a plain list: append, remove the head, empty it. -/
def Action.onList (items : List α) : Action α → Option α × List α
  | .push item => (none, items ++ [item])
  | .pop => (items.head?, items.tail)
  | .free => (none, [])

/-- The answers of a plain list to actions made one after another, and the list
afterwards. -/
def Action.allOnList (items : List α) : List (Action α) → List (Option α) × List α
  | [] => ([], items)
  | action :: rest =>
    let first := action.onList items
    let others := allOnList first.2 rest
    (first.1 :: others.1, others.2)

/-- Where the items of a queue lie: nowhere as long as there are no slots, and else in
the window from `start` up to `stop`, in order, while all other slots are empty. -/
def Layout (q : Ring α) (items : List α) : Prop :=
  q.capacity = 0 ∧ q.start = 0 ∧ q.stop = 0 ∧ items = []
  ∨ q.start < q.capacity ∧ q.stop < q.capacity ∧ items.length < q.capacity
    ∧ (q.start + items.length) % q.capacity = q.stop
    ∧ (∀ i, (hi : i < items.length) →
        q.slots[(q.start + i) % q.capacity]? = some (some items[i]))
    ∧ ∀ j, j < q.capacity → (∀ i, i < items.length → (q.start + i) % q.capacity ≠ j) →
        q.slots[j]? = some none

theorem Stores.layout {q : Ring α} {items : List α} (h : q.Stores items) : q.Layout items := by
  obtain ⟨rfl, rfl⟩ | h := h
  · exact .inl ⟨rfl, rfl, rfl, rfl⟩
  have hs := h.start_lt
  have hr := h.room
  refine .inr ⟨hs, h.stop_lt, hr, ?_, ?_, ?_⟩
  · rw [mod_eq_position hs (by omega), h.stop_eq]
  · intro i hi
    rw [mod_eq_position hs (by omega), h.slot_position (by omega), List.getElem?_eq_getElem hi]
  · intro j hj hout
    rw [h.slot_eq j hj, List.getElem?_eq_none]
    by_contra hin
    -- a slot nearer than the last item is in the window
    have hnear : distance q.capacity q.start j < items.length := by omega
    refine hout _ hnear ?_
    rw [mod_eq_position hs (by omega)]
    exact ((distance_eq_iff hs hj (by omega)).mp rfl).symm

/-- One action answers what the list answers and keeps the items together. -/
theorem Stores.apply_eq {q : Ring α} {items : List α} (h : q.Stores items) (action : Action α)
    (hcap : q.capacity < halfWord) :
    ∃ after, q.apply action = .ok ((action.onList items).1, after)
      ∧ after.Stores (action.onList items).2 := by
  have hword : word = 2 * halfWord := by decide
  cases action with
  | push item =>
      -- there are fewer items than slots, so the bound on the slots is enough
      have hlen : 2 * (items.length + 1) < word := by
        obtain ⟨-, rfl⟩ | h := h
        · exact (by decide : 2 * (0 + 1) < word)
        · have hr := h.room
          omega
      obtain ⟨after, hpush, hstores, -⟩ := h.push_eq item (by omega) hlen
      exact ⟨after, by rw [apply, hpush]; rfl, hstores⟩
  | pop =>
      cases items with
      | nil => exact ⟨q, h.pop_nil, h⟩
      | cons x xs =>
          obtain ⟨after, hpop, hstores, -⟩ := h.pop_cons (by omega)
          exact ⟨after, hpop, hstores⟩
  | free => exact ⟨empty, rfl, stores_empty⟩

/-- A run of actions from any ring. The bound on the capacity is asked of the rings that
the run comes through, so it is inherited by the rest of a run. -/
theorem Stores.applyAll_eq (actions : List (Action α)) :
    ∀ {q : Ring α} {items : List α}, q.Stores items →
      (∀ done, done <+: actions → ∀ answers after, q.applyAll done = .ok (answers, after) →
        after.capacity < halfWord) →
      ∃ after, q.applyAll actions = .ok ((Action.allOnList items actions).1, after)
        ∧ after.Stores (Action.allOnList items actions).2 := by
  induction actions with
  | nil => exact fun h _ => ⟨_, rfl, h⟩
  | cons action rest ih =>
      intro q items h hcap
      obtain ⟨next, hstep, hstores⟩ := h.apply_eq action
        (hcap [] (List.nil_prefix) [] q rfl)
      -- a beginning of the rest, with this action before it, is a beginning of the whole
      obtain ⟨after, hrest, hafter⟩ := ih hstores (by
        intro done hdone answers after hrun
        refine hcap (action :: done) ((List.prefix_cons_inj action).mpr hdone)
          ((action.onList items).1 :: answers) after ?_
        rw [applyAll, hstep]
        dsimp only
        rw [hrun])
      refine ⟨after, ?_, hafter⟩
      rw [applyAll, hstep]
      dsimp only
      rw [hrest]
      rfl

/-- **A ring is a queue.** Whatever is done to it, no step faults, the answers are those
of a plain list, and after every step the ring shows that list and keeps it in its
window. Capacities of half a word and more are left out; no block of memory has them. -/
theorem applyAll_eq_list (actions : List (Action α))
    (hcap : ∀ done, done <+: actions → ∀ answers q, empty.applyAll done = .ok (answers, q) →
      q.capacity < halfWord) :
    ∀ done, done <+: actions → ∃ q,
      empty.applyAll done = .ok ((Action.allOnList [] done).1, q)
      ∧ q.length = (Action.allOnList [] done).2.length
      ∧ q.isEmpty = (Action.allOnList [] done).2.isEmpty
      ∧ q.toList = (Action.allOnList [] done).2
      ∧ q.Layout (Action.allOnList [] done).2 := by
  intro done hdone
  obtain ⟨q, hrun, hstores⟩ := stores_empty.applyAll_eq done
    (fun earlier hearlier => hcap earlier (hearlier.trans hdone))
  exact ⟨q, hrun, hstores.length_eq, hstores.isEmpty_eq, hstores.toList_eq, hstores.layout⟩

/-- A run whose items have gone round the end when the ring has to grow: eight pushes, six
pops, and eight more pushes. -/
theorem applyAll_eq_list_of_wrapped :
    let actions := (List.range 8).map Action.push ++ List.replicate 6 .pop
      ++ (List.range' 8 8).map Action.push
    (∀ done, done <+: actions → ∀ answers q, (empty : Ring Nat).applyAll done = .ok (answers, q) →
      q.capacity < halfWord)
    ∧ ∀ done, done <+: actions → ∃ q,
      empty.applyAll done = .ok ((Action.allOnList [] done).1, q)
      ∧ q.length = (Action.allOnList [] done).2.length
      ∧ q.isEmpty = (Action.allOnList [] done).2.isEmpty
      ∧ q.toList = (Action.allOnList [] done).2
      ∧ q.Layout (Action.allOnList [] done).2 := by
  intro actions
  -- the bound on the slots is checked for each of the beginnings
  have hall : ∀ done ∈ actions.inits, ((empty.applyAll done).toOption.all fun run =>
      decide (run.2.capacity < halfWord)) = true := by
    decide +kernel
  have hcap : ∀ done, done <+: actions → ∀ answers q, empty.applyAll done = .ok (answers, q) →
      q.capacity < halfWord := by
    intro done hdone answers q hrun
    have hone := hall done ((List.mem_inits done actions).mpr hdone)
    rw [hrun] at hone
    simpa [Except.toOption] using hone
  exact ⟨hcap, applyAll_eq_list actions hcap⟩

end Ring

end GridDispatch
