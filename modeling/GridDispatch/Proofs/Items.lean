/-
Items and the bytes they are kept in.

Memory is written as items of eight types and read as items of any of them. What such a mixture
means is settled here by two characterisations: an item is the one value of its type that has
these bytes (`ItemType.decode_eq_iff`), and a run of bytes is read as the one list of values of
the type that is written as these bytes (`ItemType.decodeAll_eq_ok_iff`). With them nobody who
reads back needs to know how numbers are put together from bytes, or how a run is cut up.

Before that come the bytes themselves: what is found after some were copied over a block, and how
a run falls into pieces of one length.
-/
import GridDispatch.Bytes.Item
import Mathlib.Data.List.Basic

set_option autoImplicit false

namespace GridDispatch

/-! ## Bytes -/

namespace Bytes

/-- What is found after copying: the copied bytes where there are any, and elsewhere the old
ones. -/
theorem getElem?_overwrite {block source : Bytes} {start : Nat}
    (hfits : start + source.size ≤ block.size) (index : Nat) :
    (block.overwrite start source)[index]?
      = (if start ≤ index then source[index - start]? else none).or block[index]? := by
  rw [overwrite, Array.getElem?_mapIdx]
  by_cases hstart : start ≤ index
  · by_cases hsource : index - start < source.size
    · have hblock : index < block.size := by omega
      simp [hstart, hsource, hblock]
    · simp [hstart, hsource]
  · simp [hstart]

@[simp] theorem toList_part (block : Bytes) (start length : Nat) :
    (block.extract start (start + length)).toList = (block.toList.drop start).take length := by
  rw [Array.toList_extract, List.extract_eq_take_drop, Nat.add_sub_cancel_left]

end Bytes

/-- Pieces of one length, put together again. -/
theorem flatMap_pieces {α : Type} (all : List α) (length count : Nat) :
    (List.range count).flatMap (fun index => (all.drop (index * length)).take length)
      = all.take (count * length) := by
  induction count with
  | zero => simp
  | succ count ih =>
      rw [List.range_succ, List.flatMap_append, ih, List.flatMap_singleton, Nat.succ_mul,
        List.take_add]

theorem ofLittleEndian_lt (bytes : List UInt8) :
    ofLittleEndian bytes < Nat.pow 256 bytes.length := by
  induction bytes with
  | nil => exact Nat.zero_lt_one
  | cons byte rest ih =>
      have hbyte : byte.toNat < 256 := byte.toNat_lt
      have hpow : Nat.pow 256 (rest.length + 1) = 256 * Nat.pow 256 rest.length := Nat.pow_succ'
      rw [ofLittleEndian, List.length_cons, hpow]
      omega

/-- Writing what was read gives the bytes. -/
theorem littleEndian_ofLittleEndian (bytes : List UInt8) :
    littleEndian bytes.length (ofLittleEndian bytes) = bytes := by
  induction bytes with
  | nil => rfl
  | cons byte rest ih =>
      have hbyte : byte.toNat < 256 := byte.toNat_lt
      have hdigit : (byte.toNat + 256 * ofLittleEndian rest) % 256 = byte.toNat := by omega
      have hrest : (byte.toNat + 256 * ofLittleEndian rest) / 256 = ofLittleEndian rest := by omega
      rw [List.length_cons, ofLittleEndian, littleEndian, hdigit, hrest, ih, UInt8.ofNat_toNat]

/-! ## One item -/

namespace ItemType

variable {type : ItemType} {value : Int} {bytes : List UInt8}

theorem modulus_pos (type : ItemType) : 0 < type.modulus :=
  Nat.pow_pos (by decide)

theorem two_dvd_modulus (type : ItemType) : 2 ∣ type.modulus := by
  cases type <;> decide

/-- The bytes of a value stand for its remainder. -/
theorem ofLittleEndian_encode (type : ItemType) (value : Int) :
    (ofLittleEndian (type.encode value) : Int) = value % type.modulus := by
  have hpos : (0 : Int) < type.modulus := Int.natCast_pos.mpr type.modulus_pos
  have hnonneg := Int.emod_nonneg value (Int.ne_of_gt hpos)
  have hlt := Int.emod_lt_of_pos value hpos
  rw [encode, ofLittleEndian_littleEndian]
  change (((value % type.modulus).toNat % type.modulus : Nat) : Int) = _
  rw [Nat.mod_eq_of_lt (by omega), Int.toNat_of_nonneg hnonneg]

/-- A value that the type can hold is found again in its bytes. -/
theorem decode_encode (h : type.holds value = true) :
    type.decode (type.encode value) = value := by
  have hnumber := type.ofLittleEndian_encode value
  have hpos : (0 : Int) < type.modulus := Int.natCast_pos.mpr type.modulus_pos
  unfold holds at h
  unfold decode
  by_cases hsigned : type.isSigned = true
  · simp only [hsigned, if_true, Bool.and_eq_true, decide_eq_true_eq, Bool.true_and] at h ⊢
    by_cases hneg : value < 0
    · -- two's complement
      have hwrapped : value % type.modulus = value + type.modulus := by
        rw [← Int.add_emod_right]
        exact Int.emod_eq_of_lt (by omega) (by omega)
      rw [hwrapped] at hnumber
      rw [if_pos (by omega), hnumber]
      omega
    · rw [Int.emod_eq_of_lt (by omega) (by omega)] at hnumber
      rw [if_neg (by omega), hnumber]
  · rw [Bool.not_eq_true] at hsigned
    simp only [hsigned, Bool.false_and, Bool.and_eq_true, decide_eq_true_eq, Bool.false_eq_true,
      if_false] at h ⊢
    rw [hnumber, Int.emod_eq_of_lt h.1 h.2]

theorem ofLittleEndian_lt_modulus (hlength : bytes.length = type.size) :
    ofLittleEndian bytes < type.modulus := by
  have hlt := ofLittleEndian_lt bytes
  rwa [hlength] at hlt

/-- Whatever the bytes of an item, it is a value of the type. -/
theorem holds_decode (hlength : bytes.length = type.size) :
    type.holds (type.decode bytes) = true := by
  have hlt := ofLittleEndian_lt_modulus hlength
  have heven := type.two_dvd_modulus
  unfold holds decode
  cases type.isSigned with
  | true =>
      by_cases hhigh : type.modulus ≤ 2 * ofLittleEndian bytes
      · simp only [hhigh, if_true, decide_true, Bool.and_self, Bool.and_eq_true, decide_eq_true_eq]
        omega
      · simp only [hhigh, if_true, decide_false, Bool.and_false, Bool.false_eq_true, if_false,
          Bool.and_eq_true, decide_eq_true_eq]
        omega
  | false =>
      simp only [Bool.false_and, Bool.false_eq_true, if_false, Bool.and_eq_true, decide_eq_true_eq]
      omega

/-- An item has the bytes it was read from. -/
theorem encode_decode (hlength : bytes.length = type.size) :
    type.encode (type.decode bytes) = bytes := by
  have hlt := ofLittleEndian_lt_modulus hlength
  have hremainder : (type.decode bytes % type.modulus).toNat = ofLittleEndian bytes := by
    unfold decode
    dsimp only
    split
    · rw [← Int.add_emod_right, Int.sub_add_cancel, Int.emod_eq_of_lt (by omega) (by omega),
        Int.toNat_natCast]
    · rw [Int.emod_eq_of_lt (by omega) (by omega), Int.toNat_natCast]
  rw [encode, hremainder, ← hlength, littleEndian_ofLittleEndian]

/-- **What an item is.** It is the one value of the type that has these bytes. -/
theorem decode_eq_iff (hlength : bytes.length = type.size) :
    type.decode bytes = value ↔ type.holds value = true ∧ type.encode value = bytes := by
  constructor
  · rintro rfl
    exact ⟨holds_decode hlength, encode_decode hlength⟩
  · rintro ⟨hholds, rfl⟩
    exact decode_encode hholds

/-! ## A run of items -/

theorem toList_encodeAll (type : ItemType) (values : List Int) :
    (type.encodeAll values).toList = values.flatMap type.encode :=
  rfl

@[simp] theorem size_encodeAll (type : ItemType) (values : List Int) :
    (type.encodeAll values).size = values.length * type.size := by
  induction values with
  | nil => exact (Nat.zero_mul _).symm
  | cons value values ih =>
      simp only [encodeAll, List.size_toArray, List.flatMap_cons, List.length_append,
        length_encode, List.length_cons, Nat.succ_mul] at ih ⊢
      omega

/-- Values of the type are told apart by their bytes. -/
theorem encodeAll_inj {values others : List Int} (hvalues : ∀ v ∈ values, type.holds v = true)
    (hothers : ∀ v ∈ others, type.holds v = true)
    (h : type.encodeAll values = type.encodeAll others) : values = others := by
  induction values generalizing others with
  | nil =>
      have hsize := congrArg Array.size h
      rw [size_encodeAll, size_encodeAll, List.length_nil, Nat.zero_mul, eq_comm,
        Nat.mul_eq_zero] at hsize
      have hnone := hsize.resolve_right (Nat.ne_of_gt type.size_pos)
      exact (List.length_eq_zero_iff.mp hnone).symm
  | cons value values ih =>
      cases others with
      | nil =>
          have hsize := congrArg Array.size h
          rw [size_encodeAll, size_encodeAll, List.length_nil, Nat.zero_mul,
            Nat.mul_eq_zero] at hsize
          exact absurd (hsize.resolve_right (Nat.ne_of_gt type.size_pos)) (Nat.succ_ne_zero _)
      | cons other others =>
          have hlists := congrArg Array.toList h
          simp only [toList_encodeAll, List.flatMap_cons] at hlists
          obtain ⟨hfirst, hrest⟩ := List.append_inj hlists
            ((type.length_encode value).trans (type.length_encode other).symm)
          have hsame : value = other := by
            rw [← decode_encode (hvalues value List.mem_cons_self), hfirst,
              decode_encode (hothers other List.mem_cons_self)]
          rw [hsame, ih (fun v hv => hvalues v (List.mem_cons_of_mem _ hv))
            (fun v hv => hothers v (List.mem_cons_of_mem _ hv)) (congrArg List.toArray hrest)]

theorem decodeAll_eq_error_iff {bytes : Bytes} {fault : Fault} :
    type.decodeAll bytes = .error fault ↔ bytes.size % type.size ≠ 0 ∧ fault = .unevenItems := by
  rw [decodeAll]
  by_cases hwhole : bytes.size % type.size = 0
  · rw [if_pos hwhole]
    exact ⟨nofun, fun h => absurd hwhole h.1⟩
  · rw [if_neg hwhole, Except.error.injEq, eq_comm, and_iff_right hwhole]

/-- The items that are read are values of the type, and have the bytes they are read from. -/
theorem encodeAll_of_decodeAll {bytes : Bytes} {values : List Int}
    (h : type.decodeAll bytes = .ok values) :
    (∀ v ∈ values, type.holds v = true) ∧ type.encodeAll values = bytes := by
  rw [decodeAll] at h
  split at h
  · next hwhole =>
      cases h
      have hcount : bytes.size / type.size * type.size = bytes.size :=
        Nat.div_mul_cancel (Nat.dvd_of_mod_eq_zero hwhole)
      have hpiece : ∀ index, (bytes.extract (index * type.size) ((index + 1) * type.size)).toList
          = (bytes.toList.drop (index * type.size)).take type.size := by
        intro index
        rw [Nat.succ_mul, Bytes.toList_part]
      have hlength : ∀ index < bytes.size / type.size,
          ((bytes.toList.drop (index * type.size)).take type.size).length = type.size := by
        intro index hindex
        have hroom := Nat.mul_le_mul_right type.size (Nat.succ_le_of_lt hindex)
        rw [hcount, Nat.succ_mul] at hroom
        rw [List.length_take, List.length_drop, Array.length_toList]
        omega
      simp only [hpiece]
      refine ⟨fun v hv => ?_, ?_⟩
      · obtain ⟨index, hindex, rfl⟩ := List.mem_map.mp hv
        exact holds_decode (hlength index (List.mem_range.mp hindex))
      · apply Array.toList_inj.mp
        rw [toList_encodeAll, List.flatMap_map]
        calc (List.range (bytes.size / type.size)).flatMap (fun index =>
              type.encode (type.decode ((bytes.toList.drop (index * type.size)).take type.size)))
            = (List.range (bytes.size / type.size)).flatMap (fun index =>
              (bytes.toList.drop (index * type.size)).take type.size) :=
              List.flatMap_congr fun index hindex =>
                encode_decode (hlength index (List.mem_range.mp hindex))
          _ = bytes.toList := by
              rw [flatMap_pieces, hcount, ← Array.length_toList, List.take_length]
  · cases h

/-- **What a run of items is.** Bytes are read as the one list of values of the type that is
written as these bytes. -/
theorem decodeAll_eq_ok_iff {bytes : Bytes} {values : List Int} :
    type.decodeAll bytes = .ok values
      ↔ (∀ v ∈ values, type.holds v = true) ∧ type.encodeAll values = bytes := by
  refine ⟨encodeAll_of_decodeAll, fun ⟨hholds, hbytes⟩ => ?_⟩
  cases hread : type.decodeAll bytes with
  | error fault =>
      obtain ⟨huneven, -⟩ := decodeAll_eq_error_iff.mp hread
      rw [← hbytes, size_encodeAll, Nat.mul_mod_left] at huneven
      exact absurd rfl huneven
  | ok others =>
      obtain ⟨hothers, hsame⟩ := encodeAll_of_decodeAll hread
      rw [encodeAll_inj hothers hholds (hsame.trans hbytes.symm)]

/-- The first items have the first bytes. -/
theorem toList_encodeAll_take (type : ItemType) (values : List Int) (count : Nat) :
    (type.encodeAll (values.take count)).toList
      = (type.encodeAll values).toList.take (count * type.size) := by
  simp only [toList_encodeAll]
  induction values generalizing count with
  | nil => simp
  | cons value values ih =>
      cases count with
      | zero => simp
      | succ count =>
          rw [List.take_succ_cons, List.flatMap_cons, List.flatMap_cons, ih, Nat.succ_mul,
            Nat.add_comm, ← type.length_encode value, List.take_length_add_append]

/-- Items are read alike, whatever lies behind them. -/
theorem isPrefix_of_decodeAll {bytes : Bytes} {values all : List Int}
    (hvalues : ∀ v ∈ values, type.holds v = true)
    (hfront : bytes.toList.take (values.length * type.size) = (type.encodeAll values).toList)
    (hread : type.decodeAll bytes = .ok all) : values <+: all := by
  obtain ⟨hall, rfl⟩ := decodeAll_eq_ok_iff.mp hread
  rw [← toList_encodeAll_take] at hfront
  have hsame := encodeAll_inj hvalues (fun v hv => hall v (List.mem_of_mem_take hv))
    (Array.toList_inj.mp hfront.symm)
  rw [hsame]
  exact List.take_prefix _ _

end ItemType

end GridDispatch
