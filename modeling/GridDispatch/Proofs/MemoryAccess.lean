/-
Reading over writing.

Coroutines exchange data by writing items to the memory of their workgroup and reading items from
it. The types need not agree, nor need the places: accesses may lie across each other, at any
offset, and partly or wholly outside of the memory. So what is read is put together from bytes of
several writes.

The memory after any accesses is described byte by byte. `latest` looks through the accesses from
the last one back, for the first that has left a byte at an index; those that did not fit have left
none. One access changes a byte as `Access.written` says (`getElem?_perform`), and the memory after
a whole history is `latest` at every index (`getElem?_performAll`). What an item means is a matter
of its bytes alone (`ItemType.decode_eq_iff`), and so what is read follows, of whatever type.

Offsets are words. An end beyond the last word is no word, and is looked for among the words in
vain: `fitsInWord` makes the check as a machine does, and finds the same.
-/
import GridDispatch.Proofs.Items
import GridDispatch.Workgroup.Memory

set_option autoImplicit false

namespace GridDispatch

namespace WorkgroupMemory

/-! ## Accesses -/

namespace Access

/-- The type of the item. -/
def type : Access → ItemType
  | .read type _ => type
  | .write type _ _ => type

/-- Where the item begins. -/
def offset : Access → Nat
  | .read _ offset => offset
  | .write _ offset _ => offset

/-- Where it ends. -/
def stop (access : Access) : Nat :=
  access.offset + access.type.size

/-- The byte that an access leaves at an index of a memory of this length. An access that does not
fit leaves none. -/
def written (length index : Nat) : Access → Option UInt8
  | .read .. => none
  | .write type offset value =>
    if offset + type.size ≤ length ∧ offset ≤ index then (type.encode value)[index - offset]?
    else none

/-- What an access answers that does not fit. -/
def fault (length : Nat) (access : Access) : Fault :=
  .memoryAccess access.offset access.type.size length

/-- Bytes are left only where the item lies. -/
theorem written_eq_none {access : Access} {index : Nat}
    (h : index < access.offset ∨ access.stop ≤ index) (length : Nat) :
    access.written length index = none := by
  cases access with
  | read type offset => rfl
  | write type offset value =>
      change index < offset ∨ offset + type.size ≤ index at h
      rw [written]
      split
      · exact List.getElem?_eq_none (by rw [type.length_encode]; omega)
      · rfl

end Access

/-- The byte that was left last at an index, or else the one that was there before. -/
def latest (memory : Bytes) (accesses : List Access) (index : Nat) : Option UInt8 :=
  (accesses.reverse.findSome? (Access.written memory.size index)).or memory[index]?

/-- Whether an item fits, as it is found out with words: its end may not be one. -/
def fitsInWord (memory : Bytes) (type : ItemType) (offset : Nat) : Bool :=
  match Checked.add word offset type.size with
  | .ok stop => decide (stop ≤ memory.size)
  | .error _ => false

section

variable {memory : Bytes}

/-! ## One access -/

/-- No end of an item is taken for a smaller number. -/
theorem fitsInWord_iff (hmemory : memory.size < word) (type : ItemType) (offset : Nat) :
    fitsInWord memory type offset = true ↔ offset + type.size ≤ memory.size := by
  rw [fitsInWord]
  by_cases hword : offset + type.size < word
  · rw [Checked.add_eq_ok hword]
    exact decide_eq_true_iff
  · rw [Checked.add_eq_error (Nat.not_lt.mp hword)]
    exact ⟨nofun, fun hfits => absurd (Nat.lt_of_le_of_lt hfits hmemory) hword⟩

theorem perform_read (memory : Bytes) (type : ItemType) (offset : Nat) :
    perform memory (.read type offset) = (if offset + type.size ≤ memory.size
      then .ok (some (type.decode (memory.extract offset (offset + type.size)).toList))
      else .error (.memoryAccess offset type.size memory.size), memory) := by
  rw [perform, read, check]
  by_cases hfits : offset + type.size ≤ memory.size
  · simp only [if_pos hfits]
  · simp only [if_neg hfits]

theorem perform_write (memory : Bytes) (type : ItemType) (offset : Nat) (value : Int) :
    perform memory (.write type offset value) = if offset + type.size ≤ memory.size
      then (.ok none, memory.overwrite offset (type.encode value).toArray)
      else (.error (.memoryAccess offset type.size memory.size), memory) := by
  rw [perform, write, check]
  by_cases hfits : offset + type.size ≤ memory.size
  · simp only [if_pos hfits]
  · simp only [if_neg hfits]

/-- An access that does not fit is told so, and changes nothing. -/
theorem perform_of_out {access : Access} (h : memory.size < access.stop) :
    perform memory access = (.error (access.fault memory.size), memory) := by
  have hout : ¬ access.stop ≤ memory.size := Nat.not_le.mpr h
  cases access with
  | read type offset =>
      rw [perform_read]
      exact Prod.ext (if_neg hout) rfl
  | write type offset value => exact (perform_write memory type offset value).trans (if_neg hout)

/-- Any other is answered. -/
theorem perform_of_inside {access : Access} (h : access.stop ≤ memory.size) :
    ∃ answer, (perform memory access).1 = .ok answer := by
  cases access with
  | read type offset =>
      rw [perform_read]
      exact ⟨_, if_pos h⟩
  | write type offset value =>
      rw [perform_write]
      exact ⟨none, congrArg Prod.fst (if_pos h)⟩

@[simp] theorem size_perform (memory : Bytes) (access : Access) :
    (perform memory access).2.size = memory.size := by
  cases access with
  | read type offset => rw [perform_read]
  | write type offset value =>
      rw [perform_write]
      split
      · exact Bytes.size_overwrite _ _ _
      · rfl

/-- What is found at an index after one access. -/
theorem getElem?_perform (memory : Bytes) (access : Access) (index : Nat) :
    (perform memory access).2[index]? = (access.written memory.size index).or memory[index]? := by
  cases access with
  | read type offset =>
      rw [perform_read]
      rfl
  | write type offset value =>
      rw [perform_write]
      by_cases hfits : offset + type.size ≤ memory.size
      · have hbytes : offset + (type.encode value).toArray.size ≤ memory.size := by
          rwa [List.size_toArray, type.length_encode]
        rw [if_pos hfits, Bytes.getElem?_overwrite hbytes, List.getElem?_toArray]
        simp only [Access.written, hfits, true_and]
      · rw [if_neg hfits, Access.written, if_neg fun h => hfits h.1, Option.none_or]

/-! ## Histories -/

theorem performAll_append (memory : Bytes) (accesses others : List Access) :
    performAll memory (accesses ++ others)
      = ((performAll memory accesses).1 ++ (performAll (performAll memory accesses).2 others).1,
        (performAll (performAll memory accesses).2 others).2) := by
  induction accesses generalizing memory with
  | nil => rfl
  | cons access accesses ih => simp only [List.cons_append, performAll, ih]

@[simp] theorem length_performAll (memory : Bytes) (accesses : List Access) :
    (performAll memory accesses).1.length = accesses.length := by
  induction accesses generalizing memory with
  | nil => rfl
  | cons access accesses ih => simp only [performAll, List.length_cons, ih]

/-- Every access of a history is answered by the memory as those before have left it. -/
theorem getElem?_answers (memory : Bytes) (accesses : List Access) (access : Access)
    (others : List Access) : (performAll memory (accesses ++ access :: others)).1[accesses.length]?
      = some (perform (performAll memory accesses).2 access).1 := by
  rw [performAll_append, List.getElem?_append_right (Nat.le_of_eq (length_performAll _ _)),
    length_performAll, Nat.sub_self]
  rfl

@[simp] theorem size_performAll (memory : Bytes) (accesses : List Access) :
    (performAll memory accesses).2.size = memory.size := by
  induction accesses generalizing memory with
  | nil => rfl
  | cons access accesses ih => rw [performAll, ih, size_perform]

/-- What is found at an index after a history. -/
theorem getElem?_performAll (memory : Bytes) (accesses : List Access) (index : Nat) :
    (performAll memory accesses).2[index]? = latest memory accesses index := by
  induction accesses generalizing memory with
  | nil => rfl
  | cons access accesses ih =>
      rw [performAll, ih, latest, latest, size_perform, getElem?_perform, List.reverse_cons,
        List.findSome?_append, Option.or_assoc, List.findSome?_singleton]

/-! ## Reading -/

/-- An item that fits is read as the value of its type whose bytes are found there. -/
theorem perform_read_eq_ok_iff {type : ItemType} {offset : Nat} {value : Int}
    (h : offset + type.size ≤ memory.size) :
    (perform memory (.read type offset)).1 = .ok (some value)
      ↔ type.holds value = true
        ∧ ∀ index < type.size, (type.encode value)[index]? = memory[offset + index]? := by
  have hlength : ((memory.toList.drop offset).take type.size).length = type.size := by
    rw [List.length_take, List.length_drop, Array.length_toList]
    omega
  rw [perform_read, if_pos h, Except.ok.injEq, Option.some.injEq, Bytes.toList_part,
    ItemType.decode_eq_iff hlength]
  refine and_congr_right fun _ => ⟨fun heq index hindex => ?_, fun hbytes => ?_⟩
  · rw [heq, List.getElem?_take_of_lt hindex, List.getElem?_drop, Array.getElem?_toList]
  · apply List.ext_getElem?
    intro index
    by_cases hindex : index < type.size
    · rw [hbytes index hindex, List.getElem?_take_of_lt hindex, List.getElem?_drop,
        Array.getElem?_toList]
    · rw [List.getElem?_eq_none (by rw [type.length_encode]; omega),
        List.getElem?_eq_none (by rw [hlength]; omega)]

/-- An item that has just been written is read. -/
theorem perform_read_written {type : ItemType} {offset : Nat} {value : Int}
    (h : offset + type.size ≤ memory.size) (hvalue : type.holds value = true) :
    (perform (perform memory (.write type offset value)).2 (.read type offset)).1
      = .ok (some value) := by
  have hafter : offset + type.size ≤ (perform memory (.write type offset value)).2.size := by
    rwa [size_perform]
  refine (perform_read_eq_ok_iff hafter).mpr ⟨hvalue, fun index hindex => ?_⟩
  have hbyte : index < (type.encode value).length := by rwa [type.length_encode]
  rw [getElem?_perform, Access.written, if_pos ⟨h, Nat.le_add_right _ _⟩,
    Nat.add_sub_cancel_left, List.getElem?_eq_getElem hbyte, Option.some_or]

/-- A write is answered alike by memories of one length. -/
theorem perform_write_congr {other : Bytes} (h : other.size = memory.size) (type : ItemType)
    (offset : Nat) (value : Int) : (perform other (.write type offset value)).1
      = (perform memory (.write type offset value)).1 := by
  rw [perform_write, perform_write, h]
  split <;> rfl

/-- Accesses to different places leave the same, whichever comes first. -/
theorem perform_comm {first second : Access}
    (h : first.stop ≤ second.offset ∨ second.stop ≤ first.offset) :
    (perform (perform memory first).2 second).2 = (perform (perform memory second).2 first).2 := by
  apply Array.ext_getElem?
  intro index
  simp only [getElem?_perform, size_perform]
  by_cases hfirst : index < first.offset ∨ first.stop ≤ index
  · rw [Access.written_eq_none hfirst, Option.none_or, Option.none_or]
  · have hsecond : index < second.offset ∨ second.stop ≤ index := by omega
    rw [Access.written_eq_none hsecond, Option.none_or, Option.none_or]

/-! ## The law -/

/-- What accesses find and leave in a memory, after those that were made before. -/
structure Remembers (memory : Bytes) (accesses : List Access) : Prop where
  size_eq : (performAll memory accesses).2.size = memory.size
  /-- At every index is the byte that was left there last. -/
  getElem?_eq : ∀ index, (performAll memory accesses).2[index]? = latest memory accesses index
  /-- Whatever follows, the next access is answered by the memory as it is now. -/
  next : ∀ access others,
    (performAll memory (accesses ++ access :: others)).1[accesses.length]?
      = some (perform (performAll memory accesses).2 access).1
  /-- It fails if and only if it ends beyond the memory, and then changes nothing. -/
  fails_iff : ∀ access, (∃ fault, (perform (performAll memory accesses).2 access).1 = .error fault)
    ↔ memory.size < access.offset + access.type.size
  of_fails : ∀ access fault, (perform (performAll memory accesses).2 access).1 = .error fault →
    fault = access.fault memory.size
    ∧ (perform (performAll memory accesses).2 access).2 = (performAll memory accesses).2
  /-- That is found out with words. -/
  fitsInWord_iff : ∀ type offset, fitsInWord (performAll memory accesses).2 type offset = true
    ↔ offset + type.size ≤ memory.size
  /-- An item that is read is the value of its type with the bytes that were left last. -/
  read : ∀ type offset, offset + type.size ≤ memory.size →
    ∃ value, (perform (performAll memory accesses).2 (.read type offset)).1 = .ok (some value)
      ∧ type.holds value = true
      ∧ ∀ index < type.size,
        (type.encode value)[index]? = latest memory accesses (offset + index)
  /-- So one that has just been written is read. -/
  read_written : ∀ type offset value, type.holds value = true →
    offset + type.size ≤ memory.size →
    (performAll (performAll memory accesses).2 [.write type offset value, .read type offset]).1
      = [.ok none, .ok (some value)]
  /-- Writes to different places can change places. -/
  swap : ∀ type offset value type' offset' value',
    offset + type.size ≤ offset' ∨ offset' + type'.size ≤ offset →
    let forth := performAll (performAll memory accesses).2
      [.write type offset value, .write type' offset' value']
    let back := performAll (performAll memory accesses).2
      [.write type' offset' value', .write type offset value]
    forth.2 = back.2 ∧ forth.1 = back.1.reverse

/-- **Reading over writing.** Whatever was written to a memory, by accesses of any types, at any
offsets, inside of it and outside, an access fails if and only if it does not fit, and an item is
read whose every byte is the one that was left last where it lies. -/
theorem remembers (memory : Bytes) (hmemory : memory.size < word) (accesses : List Access) :
    Remembers memory accesses where
  size_eq := size_performAll memory accesses
  getElem?_eq := getElem?_performAll memory accesses
  next := getElem?_answers memory accesses
  fails_iff access := by
    rw [← size_performAll memory accesses]
    refine ⟨fun ⟨fault, hfault⟩ => Nat.lt_of_not_le fun hfits => ?_,
      fun hout => ⟨_, congrArg Prod.fst (perform_of_out hout)⟩⟩
    obtain ⟨answer, hanswer⟩ := perform_of_inside hfits
    rw [hanswer] at hfault
    cases hfault
  of_fails access fault hfault := by
    rw [← size_performAll memory accesses]
    by_cases hfits : access.stop ≤ (performAll memory accesses).2.size
    · obtain ⟨answer, hanswer⟩ := perform_of_inside hfits
      rw [hanswer] at hfault
      cases hfault
    · rw [perform_of_out (Nat.lt_of_not_le hfits)] at hfault ⊢
      cases hfault
      exact ⟨rfl, rfl⟩
  fitsInWord_iff type offset := by
    rw [← size_performAll memory accesses] at hmemory ⊢
    exact fitsInWord_iff hmemory type offset
  read type offset hfits := by
    rw [← size_performAll memory accesses] at hfits
    obtain ⟨value, hvalue⟩ : ∃ value,
        (perform (performAll memory accesses).2 (.read type offset)).1 = .ok (some value) := by
      rw [perform_read, if_pos hfits]
      exact ⟨_, rfl⟩
    obtain ⟨hholds, hbytes⟩ := (perform_read_eq_ok_iff hfits).mp hvalue
    refine ⟨value, hvalue, hholds, fun index hindex => ?_⟩
    rw [hbytes index hindex, getElem?_performAll]
  read_written type offset value hvalue hfits := by
    rw [← size_performAll memory accesses] at hfits
    simp only [performAll, perform_read_written hfits hvalue]
    rw [perform_write, if_pos hfits]
  swap type offset value type' offset' value' hapart := by
    refine ⟨perform_comm hapart, ?_⟩
    simp only [performAll, List.reverse_cons, List.reverse_nil, List.nil_append, List.cons_append]
    rw [perform_write_congr (size_perform _ _), perform_write_congr (size_perform _ _)]

end

/-- Two numbers of different types across each other, and one that would end beyond the words. -/
def crossed : List Access :=
  [.write .u32 1 3735928559, .write .i16 3 (-2), .write .u64 18446744073709551612 7]

/-- Two bytes of the first number and two of the second make a third one. -/
theorem remembers_crossed : (Bytes.zeros 16).size < word ∧ Remembers (Bytes.zeros 16) crossed
    ∧ (performAll (Bytes.zeros 16) crossed).1[2]?
      = some (.error (.memoryAccess 18446744073709551612 8 16))
    ∧ (perform (performAll (Bytes.zeros 16) crossed).2 (.read .i32 1)).1 = .ok (some (-82193)) :=
  ⟨by decide, remembers _ (by decide) crossed, by decide +kernel, by decide +kernel⟩

end WorkgroupMemory

end GridDispatch
