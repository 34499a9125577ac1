/-
Which preparations succeed, and what the others leave.

The volumes of workgroup and grid are formed side by side, and every partial product is checked.
So a volume that fits could be turned down on the way to it, namely where a zero comes after sides
that are too large together. It is not: a workgroup with a zero is turned down anyway, and sides
of a grid are bounded so that any two of them can be multiplied. Both volumes are therefore
decided by the exact products (`workgroupVolume_eq_ite`, `gridVolume_eq_ite`), and the order of
the sides does not matter.

`Preparation.refusal` is the classification by exact products, in the order in which the arguments
are looked at. Behind it only the storage can fail, and only for a declared set longer than memory
can be (`memoryFault`); a set that was handed over has been in memory. A preparation that does not
succeed leaves the context as it was, so it may be struck from every history.
-/
import GridDispatch.Proofs.ContextHistory

set_option autoImplicit false

namespace GridDispatch

/-! ## Exact products -/

namespace Checked

theorem foldlM_mul_of_pos {limit : Nat} (factors : List Nat) (hpos : 0 < factors.prod) :
    ∀ {first : Nat}, first * factors.prod < limit →
      factors.foldlM (mul limit) first = .ok (first * factors.prod) := by
  induction factors with
  | nil =>
      intro first _
      rw [List.prod_nil, Nat.mul_one]
      rfl
  | cons factor rest ih =>
      intro first hlt
      rw [List.prod_cons] at hpos
      rw [List.prod_cons, ← Nat.mul_assoc] at hlt ⊢
      have hrest : 0 < rest.prod := Nat.pos_of_mul_pos_left hpos
      -- no partial product is larger than the whole one
      have hstep : first * factor < limit :=
        Nat.lt_of_le_of_lt (Nat.le_mul_of_pos_right _ hrest) hlt
      rw [List.foldlM_cons, mul_eq_ok hstep]
      exact ih hrest hlt

/-- Without a zero among the factors, no partial product leaves the word unless the whole one
does. -/
theorem product_of_pos {limit : Nat} {factors : List Nat} (hpos : 0 < factors.prod)
    (hlt : factors.prod < limit) : product limit factors = .ok factors.prod := by
  rw [product, foldlM_mul_of_pos factors hpos (by rwa [Nat.one_mul]), Nat.one_mul]

/-- With a zero, it is the partial products before it that have to fit. -/
theorem product_of_partial {limit a b c : Nat} (ha : a < limit) (hab : a * b < limit)
    (habc : a * b * c < limit) : product limit [a, b, c] = .ok (a * b * c) := by
  simp only [product, List.foldlM_cons, List.foldlM_nil, bind_eq_ok_iff, mul_eq_ok_iff]
  have hone : 1 * a = a := Nat.one_mul a
  exact ⟨a, ⟨by rwa [hone], hone⟩, a * b, ⟨hab, rfl⟩, a * b * c, ⟨habc, rfl⟩, rfl⟩

end Checked

/-- The volume does not depend on the order of the sides. -/
theorem Coord.volume_eq_of_perm {size size' : Coord} (h : size.toList.Perm size'.toList) :
    size.volume = size'.volume := by
  rw [← size.prod_toList, ← size'.prod_toList]
  exact h.prod_eq

namespace Context

/-- The volume of a workgroup is the exact one, unless that is zero or too large. -/
theorem workgroupVolume_eq_ite (size : Coord) : workgroupVolume size
    = if size.volume = 0 ∨ lane ≤ size.volume then none else some size.volume := by
  by_cases h : size.volume = 0 ∨ lane ≤ size.volume
  · rw [if_pos h]
    cases hvolume : workgroupVolume size with
    | none => rfl
    | some volume =>
        obtain ⟨rfl, hpos, hlt⟩ := workgroupVolume_eq hvolume
        omega
  · rw [if_neg h]
    rw [← size.prod_toList] at h ⊢
    have hpos : 0 < size.toList.prod := by omega
    rw [workgroupVolume, Checked.product_of_pos hpos (by omega)]
    split
    · next hzero => exact absurd (Option.some.inj hzero) (Nat.pos_iff_ne_zero.mp hpos)
    · rfl

/-- The volume of a grid is the exact one, unless a side or the volume is too large; a zero may
stand anywhere. -/
theorem gridVolume_eq_ite (grid : Coord) : gridVolume grid
    = if (∃ side ∈ grid.toList, signedMax < side) ∨ word ≤ grid.volume then none
      else some grid.volume := by
  have hsides : (grid.x ≤ signedMax ∧ grid.y ≤ signedMax ∧ grid.z ≤ signedMax)
      ↔ ¬ ∃ side ∈ grid.toList, signedMax < side := by
    simp [Coord.toList]
  by_cases h : (∃ side ∈ grid.toList, signedMax < side) ∨ word ≤ grid.volume
  · rw [if_pos h]
    cases hvolume : gridVolume grid with
    | none => rfl
    | some volume =>
        obtain ⟨rfl, hlt, hle⟩ := gridVolume_eq hvolume
        rcases h with hlong | hlarge
        · exact absurd hlong (hsides.mp hle)
        · omega
  · rw [if_neg h]
    obtain ⟨hshort, hsmall⟩ := not_or.mp h
    have hle := hsides.mpr hshort
    -- two sides can be multiplied whatever the third one is
    have htwo : grid.x * grid.y < word :=
      Nat.lt_of_le_of_lt (Nat.mul_le_mul hle.1 hle.2.1) (by decide)
    have hproduct : Checked.product word grid.toList = .ok grid.volume :=
      Checked.product_of_partial (Nat.lt_of_le_of_lt hle.1 (by decide)) htwo (Nat.not_le.mp hsmall)
    rw [gridVolume, if_pos hle, hproduct]
    rfl

end Context

/-! ## Classification -/

namespace Preparation

variable {ρ σ : Type}

/-- Why a preparation is refused, if it is. -/
def refusal (p : Preparation ρ σ) : Option Refusal :=
  let size := p.program.info.workgroupSize
  if p.threads = 0 then some .threads
  else if p.set.size < p.setSize then some (.descriptorSet p.setSize p.set.size)
  else if size.volume = 0 ∨ lane ≤ size.volume then some (.workgroupSize size)
  else if (∃ side ∈ p.grid.toList, signedMax < side) ∨ word ≤ p.grid.volume then
    some (.gridOverflow p.grid)
  else none

/-- Why a preparation does not succeed, if it does not. -/
def failure (p : Preparation ρ σ) : Option Failure :=
  match p.refusal with
  | some refusal => some (.refused refusal)
  | none => (memoryFault p.setSize).map .faulted

theorem failure_eq_none_iff {p : Preparation ρ σ} :
    p.failure = none ↔ p.refusal = none ∧ memoryFault p.setSize = none := by
  rw [failure]
  cases p.refusal with
  | none => simp
  | some refusal => simp

theorem failure_eq_refused_iff {p : Preparation ρ σ} {refusal : Refusal} :
    p.failure = some (.refused refusal) ↔ p.refusal = some refusal := by
  rw [failure]
  cases p.refusal with
  | none => simp
  | some found => simp

theorem failure_eq_faulted_iff {p : Preparation ρ σ} {fault : Fault} :
    p.failure = some (.faulted fault) ↔ p.refusal = none ∧ memoryFault p.setSize = some fault := by
  rw [failure]
  cases p.refusal with
  | none => simp
  | some found => simp

/-- The checks that are made come to the classification by exact products. -/
theorem accept_eq_refusal (p : Preparation ρ σ) :
    Context.accept p.threads p.program.info p.set.size p.grid = match p.refusal with
      | some refusal => .error refusal
      | none => .ok (p.program.info.workgroupSize.volume, p.grid.volume) := by
  rw [Context.accept, refusal, setSize, Context.workgroupVolume_eq_ite, Context.gridVolume_eq_ite]
  by_cases hthreads : p.threads = 0
  · simp only [if_pos hthreads]
  by_cases hset : p.set.size < p.program.info.setSize
  · simp only [if_neg hthreads, if_pos hset]
  by_cases hsize : p.program.info.workgroupSize.volume = 0
      ∨ lane ≤ p.program.info.workgroupSize.volume
  · simp only [if_neg hthreads, if_neg hset, if_pos hsize]
  by_cases hgrid : (∃ side ∈ p.grid.toList, signedMax < side) ∨ word ≤ p.grid.volume
  · simp only [if_neg hthreads, if_neg hset, if_neg hsize, if_pos hgrid]
  · simp only [if_neg hthreads, if_neg hset, if_neg hsize, if_neg hgrid]

/-- An accepted set is as long as it is declared, and its program's workgroups are numbered
alike as lanes and as counts. -/
theorem invocations_of_refusal {p : Preparation ρ σ} (h : p.refusal = none) :
    p.setSize ≤ p.set.size
      ∧ p.program.info.invocations = .ok p.program.info.workgroupSize.volume := by
  unfold refusal at h
  dsimp only at h
  split at h
  · cases h
  split at h
  · cases h
  · next hset =>
      split at h
      · cases h
      · next hsize =>
          rw [← Coord.prod_toList] at hsize ⊢
          have hword : lane < word := by decide
          refine ⟨Nat.not_lt.mp hset, Checked.product_of_pos ?_ ?_⟩ <;> omega

end Preparation

/-- Memory that can exist can be had. -/
theorem memoryFault_of_le {size : Nat} (h : size ≤ maxMemory) : memoryFault size = none := by
  have hmax : maxMemory = 9223372036854775792 := rfl
  rw [hmax] at h
  have hround : alignUp size memoryAlign = .ok (roundUp size memoryAlign) :=
    alignUp_eq_ok_iff.mpr ⟨by decide, by change size + 16 < 18446744073709551616; omega, rfl⟩
  have hle : roundUp size memoryAlign ≤ maxMemory := by
    change (size + 16 - 1) / 16 * 16 ≤ 9223372036854775792
    omega
  rw [memoryFault, hround]
  exact if_pos hle

namespace Context

variable {ρ σ : Type}

/-- What reserving storage answers does not depend on what there is, but for whether it grows. -/
theorem reserveStorage_eq {storage : Block} (h : storage.Sound) (setSize : Nat) :
    reserveStorage storage setSize = match memoryFault setSize with
      | some fault => .error fault
      | none =>
        if roundUp setSize memoryAlign ≤ storage.size then .ok ([], storage)
        else .ok ([.storageGrown (roundUp setSize memoryAlign)],
          ⟨Bytes.zeros (roundUp setSize memoryAlign), memoryAlign⟩) := by
  rw [reserveStorage, memoryFault]
  cases hround : alignUp setSize memoryAlign with
  | error fault => rfl
  | ok capacity =>
      obtain ⟨-, -, rfl⟩ := alignUp_eq_ok_iff.mp hround
      dsimp only
      rw [Block.reserve, h.align_eq, Block.allocate_eq]
      by_cases hfits : roundUp setSize memoryAlign ≤ storage.size
      · simp only [if_pos hfits, if_pos (Nat.le_trans hfits h.size_le)]
        rfl
      · by_cases hle : roundUp setSize memoryAlign ≤ maxMemory
        · simp only [if_neg hfits, if_pos hle]
          rfl
        · simp only [if_neg hfits, if_neg hle]

section

variable {context : Context ρ σ} {p : Preparation ρ σ}

/-- A preparation fails as it is classified, and changes nothing. -/
theorem prepare_of_failure (h : context.storage.Sound) {failure : Failure}
    (hfailure : p.failure = some failure) :
    context.prepare p.threads p.program p.set p.grid = (.error failure, context) := by
  unfold prepare
  dsimp only
  rw [p.accept_eq_refusal]
  cases failure with
  | refused refusal =>
      rw [Preparation.failure_eq_refused_iff.mp hfailure]
  | faulted fault =>
      obtain ⟨hrefusal, hfault⟩ := Preparation.failure_eq_faulted_iff.mp hfailure
      rw [Preparation.setSize] at hfault
      rw [hrefusal]
      dsimp only
      rw [reserveStorage_eq h, hfault]

/-- Otherwise it succeeds, and the storage is one that can exist again. -/
theorem prepare_of_success (h : context.storage.Sound) (hfailure : p.failure = none) :
    ∃ events after, context.prepare p.threads p.program p.set p.grid = (.ok events, after)
      ∧ after.storage.Sound := by
  obtain ⟨hrefusal, hfault⟩ := Preparation.failure_eq_none_iff.mp hfailure
  obtain ⟨capacity, hround, hle⟩ := memoryFault_eq_none hfault
  obtain ⟨-, -, rfl⟩ := alignUp_eq_ok_iff.mp hround
  rw [Preparation.setSize] at hfault hle
  unfold prepare
  dsimp only
  rw [p.accept_eq_refusal, hrefusal]
  dsimp only
  rw [reserveStorage_eq h, hfault]
  by_cases hfits : roundUp p.program.info.setSize memoryAlign ≤ context.storage.size
  · simp only [if_pos hfits]
    refine ⟨_, _, rfl, ?_, ?_⟩
    · rw [Block.align_refill, h.align_eq]
    · rw [Block.size_refill]
      exact h.size_le
  · simp only [if_neg hfits]
    refine ⟨_, _, rfl, ?_, ?_⟩
    · rw [Block.align_refill]
    · rw [Block.size_refill, Block.size, Bytes.size_zeros]
      exact hle

end

end Context

/-! ## Histories -/

namespace Ledger

variable {ρ σ : Type}

theorem sound_initial : (initial : Ledger ρ σ).context.storage.Sound :=
  ⟨rfl, Nat.zero_le _⟩

/-- The storage of a context is one that can exist, whatever is asked of it. -/
theorem sound_perform {ledger : Ledger ρ σ} (h : ledger.context.storage.Sound)
    (request : Context.Request ρ σ) : (ledger.perform request).context.storage.Sound := by
  cases request with
  | prepare p =>
      cases hfailure : p.failure with
      | none =>
          obtain ⟨events, after, hprepare, hafter⟩ := Context.prepare_of_success h hfailure
          simp only [perform, hprepare]
          exact hafter
      | some failure =>
          simp only [perform, Context.prepare_of_failure h hfailure]
          exact h
  | setPushConstants bytes =>
      obtain ⟨dynamicOffsets, pushConstants, heq⟩ := ledger.context.setPushConstants_eq bytes
      rw [perform, heq]
      exact h
  | setDynamicOffsets offsets =>
      obtain ⟨dynamicOffsets, pushConstants, heq⟩ := ledger.context.setDynamicOffsets_eq offsets
      rw [perform, heq]
      exact h
  | dispatch backend thread run => exact h
  | dispatchAll backend crew => exact h
  | release => exact ⟨rfl, Nat.zero_le _⟩

theorem sound_performAll (requests : List (Context.Request ρ σ)) :
    (performAll requests).context.storage.Sound :=
  List.foldlRecOn (motive := fun ledger => ledger.context.storage.Sound) requests perform
    sound_initial fun _ h request _ => sound_perform h request

/-- A preparation that does not fail is the last one that succeeded. -/
theorem done_prepare {ledger : Ledger ρ σ} (h : ledger.context.storage.Sound)
    {p : Preparation ρ σ} (hfailure : p.failure = none) :
    (ledger.perform (.prepare p)).done = p :: ledger.done := by
  obtain ⟨events, after, hprepare, -⟩ := Context.prepare_of_success h hfailure
  simp only [perform, hprepare]

/-- A preparation that fails can be struck from a history. -/
theorem performAll_of_failure {requests : List (Context.Request ρ σ)} {p : Preparation ρ σ}
    {failure : Failure} (hfailure : p.failure = some failure)
    (later : List (Context.Request ρ σ)) :
    performAll (requests ++ .prepare p :: later) = performAll (requests ++ later) := by
  have hstep : (performAll requests).perform (.prepare p) = performAll requests := by
    simp only [perform, Context.prepare_of_failure (sound_performAll requests) hfailure]
  rw [performAll, performAll, List.foldl_append, List.foldl_append, List.foldl_cons]
  exact congrArg (List.foldl perform · later) hstep

/-- What a context answers to a preparation, and what it is then. -/
structure Classifies (ledger : Ledger ρ σ) (p : Preparation ρ σ) : Prop where
  refused_iff : ∀ refusal,
    (ledger.context.prepare p.threads p.program p.set p.grid).1 = .error (.refused refusal)
      ↔ p.refusal = some refusal
  /-- Only storage can fail, and the same way whatever there is already. -/
  faulted_iff : ∀ fault,
    (ledger.context.prepare p.threads p.program p.set p.grid).1 = .error (.faulted fault)
      ↔ p.refusal = none ∧ memoryFault p.setSize = some fault
  /-- It does not for a set that can be in memory. -/
  succeeds : p.refusal = none → p.set.size ≤ maxMemory →
    ∃ events, (ledger.context.prepare p.threads p.program p.set p.grid).1 = .ok events
  /-- The invocations are numbered as the program counts them. -/
  invocations_eq : ∀ events after,
    ledger.context.prepare p.threads p.program p.set p.grid = (.ok events, after) →
      p.program.info.invocations = .ok after.constants.invocationsPerWorkgroup
  unchanged : ∀ failure,
    (ledger.context.prepare p.threads p.program p.set p.grid).1 = .error failure →
      (ledger.context.prepare p.threads p.program p.set p.grid).2 = ledger.context

theorem classifies {ledger : Ledger ρ σ} (h : ledger.context.storage.Sound)
    (p : Preparation ρ σ) : ledger.Classifies p := by
  cases hfailure : p.failure with
  | none =>
      obtain ⟨events, after, hprepare, -⟩ := Context.prepare_of_success h hfailure
      obtain ⟨hrefusal, hfault⟩ := Preparation.failure_eq_none_iff.mp hfailure
      refine ⟨fun refusal => ?_, fun fault => ?_, fun _ _ => ⟨events, by rw [hprepare]⟩,
        fun events' after' hprepare' => ?_, fun failure hfailed => ?_⟩
      · simp [hprepare, hrefusal]
      · simp [hprepare, hfault]
      · rw [(Context.prepared_of_prepare hprepare').invocations_eq]
        exact (Preparation.invocations_of_refusal hrefusal).2
      · rw [hprepare] at hfailed
        cases hfailed
  | some failure =>
      have hprepare := Context.prepare_of_failure h hfailure
      refine ⟨fun refusal => ?_, fun fault => ?_, fun hrefusal hset => ?_,
        fun events' after' hprepare' => ?_, fun _ _ => by rw [hprepare]⟩
      · rw [hprepare, ← Preparation.failure_eq_refused_iff, hfailure]
        simp
      · rw [hprepare, ← Preparation.failure_eq_faulted_iff, hfailure]
        simp
      · have hle := (Preparation.invocations_of_refusal hrefusal).1
        have hfault := memoryFault_of_le (Nat.le_trans hle hset)
        rw [Preparation.failure_eq_none_iff.mpr ⟨hrefusal, hfault⟩] at hfailure
        cases hfailure
      · rw [hprepare] at hprepare'
        cases hprepare'

/-- **Preparations are classified by exact products, and those that fail change nothing.** On
every context that comes about, a preparation is refused for the first of its arguments that is
out of bounds, where the volumes of workgroup and grid are the exact ones, and otherwise succeeds;
the only way out is a set longer than any block of memory. One that fails leaves the context as
it was, so whatever is asked later finds the context that would be there without it. The order
of the sides makes no difference to the volumes, nor does the place of a zero. -/
theorem classifies_performAll (requests : List (Context.Request ρ σ)) (p : Preparation ρ σ) :
    (performAll requests).Classifies p
    ∧ (∀ failure, ((performAll requests).context.prepare p.threads p.program p.set p.grid).1
        = .error failure → ∀ later : List (Context.Request ρ σ),
          performAll (requests ++ .prepare p :: later) = performAll (requests ++ later))
    ∧ ∀ size size' : Coord, size.toList.Perm size'.toList →
        Context.workgroupVolume size = Context.workgroupVolume size'
        ∧ Context.gridVolume size = Context.gridVolume size' := by
  have hsound := sound_performAll requests
  refine ⟨classifies hsound p, fun failure hfailed later => ?_, fun size size' hperm => ?_⟩
  · cases hfailure : p.failure with
    | none =>
        obtain ⟨events, after, hprepare, -⟩ := Context.prepare_of_success hsound hfailure
        rw [hprepare] at hfailed
        cases hfailed
    | some failure => exact performAll_of_failure hfailure later
  · simp only [Context.workgroupVolume_eq_ite, Context.gridVolume_eq_ite,
      Coord.volume_eq_of_perm hperm, hperm.mem_iff, and_self]

-- 65536 * 65536 leaves a lane, and no zero behind it makes the workgroup a possible one
example : [⟨65536, 65536, 0⟩, ⟨0, 65536, 65536⟩, ⟨65536, 65535, 1⟩].map Context.workgroupVolume
    = [none, none, some 4294901760] := by
  decide

end Ledger

end GridDispatch
