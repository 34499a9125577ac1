/-
The queue of coroutines: a ring of slots.

The ring is an array of slots, some of which hold an item, and two positions. Items
lie in the slots from `start` up to, not including, `stop`, going round at the end
of the array. One slot always stays empty, so that equal positions mean an empty
queue. A push that would fill the last free slot first grows the array, to twice
its length and to `minCapacity` at least; items that had gone round to the front
move behind the old end, which keeps the order. Popping never shrinks the array.

Every step that could refer to a slot beyond the array, or meet positions that do
not belong together, is checked and faults. `Ring.toList` is the view by which the
ring is to be understood: front to back, the items in the order of their pushes.
-/
import GridDispatch.Arith.Checked
import GridDispatch.Text.Record

set_option autoImplicit false

namespace GridDispatch

/-- The least number of slots of a ring that holds anything. -/
abbrev minCapacity : Nat := 10

/-- A queue stored in a ring of slots. -/
structure Ring (α : Type) where
  slots : Array (Option α)
  /-- The slot of the front item. -/
  start : Nat
  /-- The slot after the last item. -/
  stop : Nat
deriving DecidableEq, Repr

/-- A record of a growing ring: its capacity before and after. -/
structure Growth where
  before : Nat
  after : Nat
deriving DecidableEq, Repr

namespace Ring

variable {α : Type}

/-- The queue without items and without slots. -/
def empty : Ring α := ⟨#[], 0, 0⟩

/-- The number of slots. -/
def capacity (q : Ring α) : Nat :=
  q.slots.size

/-- The number of items. -/
def length (q : Ring α) : Nat :=
  if q.start ≤ q.stop then q.stop - q.start else q.capacity - q.start + q.stop

/-- Whether there are no items. -/
def isEmpty (q : Ring α) : Bool :=
  q.start == q.stop

/-- The slot of the item at a distance from the front. -/
def slot? (q : Ring α) (distance : Nat) : Option α :=
  (q.slots[(q.start + distance) % max q.capacity 1]?).join

/-- The items from front to back. -/
def toList (q : Ring α) : List α :=
  (List.range q.length).filterMap q.slot?

/-- The items in the order of the slots, which is the order in which a ring that is
dropped gives them up. -/
def slotOrder (q : Ring α) : List α :=
  q.slots.toList.filterMap id

/-- Twice the slots, with the items that had gone round moved behind the old end. -/
def grow (q : Ring α) : Except Fault (Ring α × Growth) :=
  match Checked.mul word q.capacity 2 with
  | .error fault => .error fault
  | .ok doubled =>
    let capacity := max doubled minCapacity
    let added := capacity - q.capacity
    let growth : Growth := ⟨q.capacity, capacity⟩
    if q.stop < q.start then
      if q.stop ≤ added then
        match Checked.add word q.stop q.capacity with
        | .error fault => .error fault
        | .ok stop =>
          .ok (⟨Array.replicate q.stop none ++ q.slots.extract q.stop q.capacity
              ++ q.slots.extract 0 q.stop ++ Array.replicate (added - q.stop) none,
            q.start, stop⟩, growth)
      else
        .error .queueOverlap
    else
      .ok (⟨q.slots ++ Array.replicate added none, q.start, q.stop⟩, growth)

/-- Puts an item into the slot at `stop` and moves `stop` on. -/
def place (q : Ring α) (item : α) (next : Nat) : Except Fault (Ring α) :=
  if q.stop < q.capacity then .ok ⟨q.slots.setIfInBounds q.stop (some item), q.start, next⟩
  else .error .outOfRange

/-- Appends an item, growing first if that would leave no slot empty. -/
def push (q : Ring α) (item : α) : Except Fault (Ring α × Option Growth) :=
  match Checked.add word q.stop 1 with
  | .error fault => .error fault
  | .ok sum =>
    let next := if q.capacity ≤ sum then 0 else sum
    if next = q.start then
      match q.grow with
      | .error fault => .error fault
      | .ok (grown, growth) =>
        match Checked.add word grown.stop 1 with
        | .error fault => .error fault
        | .ok sum =>
          match Checked.rem sum grown.capacity with
          | .error fault => .error fault
          | .ok next =>
            match grown.place item next with
            | .error fault => .error fault
            | .ok after => .ok (after, some growth)
    else
      match q.place item next with
      | .error fault => .error fault
      | .ok after => .ok (after, none)

/-- Takes the front item. -/
def pop (q : Ring α) : Except Fault (Option α × Ring α) :=
  if q.start = q.stop then .ok (none, q)
  else
    match q.slots[q.start]? with
    | none => .error .outOfRange
    | some item =>
      match Checked.add word q.start 1 with
      | .error fault => .error fault
      | .ok sum =>
        match Checked.rem sum q.capacity with
        | .error fault => .error fault
        | .ok start => .ok (item, ⟨q.slots.setIfInBounds q.start none, start, q.stop⟩)

/-- The number of slots that hold an item. -/
def occupied (q : Ring α) : Nat :=
  q.slots.toList.countP Option.isSome

/-- Taking an item leaves one slot less occupied. -/
theorem occupied_pop {q after : Ring α} {item : α} (h : q.pop = .ok (some item, after)) :
    after.occupied < q.occupied := by
  unfold pop at h
  split at h
  · simp at h
  · split at h
    · simp at h
    · rename_i found
      split at h
      · simp at h
      · split at h
        · simp at h
        · obtain ⟨bound, value⟩ := Array.getElem?_eq_some_iff.mp found
          simp only [Except.ok.injEq, Prod.mk.injEq] at h
          obtain ⟨rfl, rfl⟩ := h
          have inside : q.start < q.slots.toList.length := by simpa using bound
          have here : q.slots.toList[q.start] = some item := by simpa using value
          have present : 0 < q.slots.toList.countP Option.isSome :=
            List.countP_pos_iff.mpr ⟨some item, here ▸ List.getElem_mem _, rfl⟩
          have step := List.countP_set (p := Option.isSome) (a := (none : Option α))
            inside
          simp only [here, Option.isSome_some, Option.isSome_none, if_true,
            Bool.false_eq_true, if_false, Nat.add_zero] at step
          unfold occupied
          simp only [Array.toList_setIfInBounds]
          omega

/-- The diagnostic text: every slot and the two positions. -/
def text (q : Ring α) (item : α → String) : String :=
  Text.record "Coroutines"
    [("slots", Text.list (q.slots.toList.map fun slot => Text.optional (slot.map item))),
      ("start", toString q.start), ("end", toString q.stop)]

end Ring

end GridDispatch
