/-
Contexts that come about, and how much work they can ask of a thread.

Preparing is the only way to a grid and to a number of subgroups, and it checks the sizes
that are multiplied: the invocations of a workgroup fit a lane, and the workgroups of a
grid a word. Everything a dispatch counts is bounded by these two numbers. In particular
the coroutines of one workgroup always fit a queue (`Reachable.coroutineCount_le`).

What a preparation that succeeds leaves behind is collected once, in `Context.Prepared`: the
products are the exact ones, and the sides and volumes are within the bounds that were checked.
A context without a program has no workgroups (`Reachable.workgroups_eq_zero`).
-/
import GridDispatch.Schedule.Dispatch
import Mathlib.Algebra.BigOperators.Group.List.Basic

set_option autoImplicit false

namespace GridDispatch

/-! ## Checked products -/

namespace Checked

theorem foldlM_mul_eq_ok {limit : Nat} (factors : List Nat) : ∀ {first value : Nat},
    first < limit → factors.foldlM (mul limit) first = .ok value →
    value < limit ∧ value = first * factors.prod := by
  induction factors with
  | nil =>
      intro first value hfirst h
      cases h
      refine ⟨hfirst, ?_⟩
      rw [List.prod_nil, Nat.mul_one]
  | cons factor rest ih =>
      intro first value _ h
      rw [List.foldlM_cons, bind_eq_ok_iff] at h
      obtain ⟨next, hstep, hrest⟩ := h
      obtain ⟨hnext, rfl⟩ := mul_eq_ok_iff.mp hstep
      obtain ⟨hlt, heq⟩ := ih hnext hrest
      refine ⟨hlt, ?_⟩
      rw [heq, List.prod_cons, Nat.mul_assoc]

/-- A checked product is the exact one. -/
theorem product_eq_ok {limit value : Nat} {factors : List Nat} (hlimit : 1 < limit)
    (h : (product limit factors).toOption = some value) :
    value < limit ∧ value = factors.prod := by
  cases hproduct : product limit factors with
  | error fault =>
      rw [hproduct] at h
      cases h
  | ok found =>
      rw [hproduct] at h
      cases h
      obtain ⟨hlt, heq⟩ := foldlM_mul_eq_ok factors hlimit hproduct
      rw [Nat.one_mul] at heq
      exact ⟨hlt, heq⟩

end Checked

theorem Coord.prod_toList (c : Coord) : c.toList.prod = c.volume := by
  rw [toList, volume, List.prod_cons, List.prod_cons, List.prod_singleton, Nat.mul_assoc]

namespace Context

variable {ρ σ : Type}

/-! ## Preparing -/

theorem workgroupVolume_eq {size : Coord} {volume : Nat}
    (h : workgroupVolume size = some volume) :
    volume = size.volume ∧ 0 < volume ∧ volume < lane := by
  unfold workgroupVolume at h
  split at h
  · cases h
  · next hzero =>
      obtain ⟨hlt, heq⟩ := Checked.product_eq_ok (by decide) h
      refine ⟨heq.trans size.prod_toList, Nat.pos_of_ne_zero ?_, hlt⟩
      rintro rfl
      exact hzero h

theorem gridVolume_eq {grid : Coord} {volume : Nat} (h : gridVolume grid = some volume) :
    volume = grid.volume ∧ volume < word
      ∧ grid.x ≤ signedMax ∧ grid.y ≤ signedMax ∧ grid.z ≤ signedMax := by
  unfold gridVolume at h
  split at h
  · next hsides =>
      obtain ⟨hlt, heq⟩ := Checked.product_eq_ok (by decide) h
      exact ⟨heq.trans grid.prod_toList, hlt, hsides⟩
  · cases h

/-- Arguments are accepted with the exact volumes of workgroup and grid. -/
theorem accept_eq {threads setLength invocations workgroups : Nat} {info : ProgramInfo}
    {grid : Coord} (h : accept threads info setLength grid = .ok (invocations, workgroups)) :
    0 < threads ∧ workgroupVolume info.workgroupSize = some invocations
      ∧ gridVolume grid = some workgroups := by
  unfold accept at h
  split at h
  · cases h
  · next hthreads =>
      split at h
      · cases h
      split at h
      · cases h
      · next hinvocations =>
          split at h
          · cases h
          · next hworkgroups =>
              cases h
              exact ⟨Nat.pos_of_ne_zero hthreads, hinvocations, hworkgroups⟩

/-- Arguments that are accepted are small enough. -/
theorem accept_lt {threads setLength invocations workgroups : Nat} {info : ProgramInfo}
    {grid : Coord} (h : accept threads info setLength grid = .ok (invocations, workgroups)) :
    invocations < lane ∧ workgroups < word := by
  obtain ⟨-, hinvocations, hworkgroups⟩ := accept_eq h
  exact ⟨(workgroupVolume_eq hinvocations).2.2, (gridVolume_eq hworkgroups).2.1⟩

/-- What a context holds once it is prepared for a program over a grid. -/
structure Prepared (context : Context ρ σ) (threads : Nat) (program : Program ρ σ)
    (grid : Coord) : Prop where
  threads_pos : 0 < threads
  threads_eq : context.threads = threads
  program_eq : context.program = some program
  hasBarriers_eq : context.hasBarriers = program.info.hasBarriers
  grid_eq : context.grid = grid
  /-- Every side fits a signed 32-bit number. -/
  side_le : grid.x ≤ signedMax ∧ grid.y ≤ signedMax ∧ grid.z ≤ signedMax
  workgroups_eq : context.workgroups = grid.volume
  workgroups_lt : grid.volume < word
  size_eq : context.constants.workgroupSize.coord = program.info.workgroupSize
  width_eq : context.constants.invocationsPerSubgroup = subgroupWidth
  invocations_eq : context.constants.invocationsPerWorkgroup = program.info.workgroupSize.volume
  invocations_pos : 0 < program.info.workgroupSize.volume
  invocations_lt : program.info.workgroupSize.volume < lane
  /-- The last subgroup need not be full. -/
  subgroups_eq : context.constants.subgroupsPerWorkgroup
    = (program.info.workgroupSize.volume + subgroupWidth - 1) / subgroupWidth

/-- **A preparation that succeeds** leaves a prepared context. -/
theorem prepared_of_prepare {before after : Context ρ σ} {threads : Nat} {program : Program ρ σ}
    {set : Bytes} {grid : Coord} {events : List Event}
    (h : before.prepare threads program set grid = (.ok events, after)) :
    after.Prepared threads program grid := by
  unfold Context.prepare at h
  dsimp only at h
  split at h
  · cases h
  · next invocations workgroups haccept =>
      obtain ⟨hthreads, hinvocations, hworkgroups⟩ := accept_eq haccept
      obtain ⟨rfl, hpos, hlane⟩ := workgroupVolume_eq hinvocations
      obtain ⟨rfl, hword, hsides⟩ := gridVolume_eq hworkgroups
      split at h
      · cases h
      · cases h
        exact ⟨hthreads, rfl, rfl, rfl, rfl, hsides, rfl, hword, rfl, rfl, rfl, hpos, hlane, rfl⟩

/-- A preparation that does not succeed changes nothing. -/
theorem prepare_of_error {context after : Context ρ σ} {threads : Nat} {program : Program ρ σ}
    {set : Bytes} {grid : Coord} {failure : Failure}
    (h : context.prepare threads program set grid = (.error failure, after)) : after = context := by
  unfold prepare at h
  dsimp only at h
  split at h
  · cases h
    rfl
  · split at h
    · cases h
      rfl
    · cases h

/-- A context that was made and changed by the operations on contexts only. -/
inductive Reachable : Context ρ σ → Prop
  | initial : Reachable .initial
  | prepare {context : Context ρ σ} (threads : Nat) (program : Program ρ σ) (set : Bytes)
      (grid : Coord) : Reachable context → Reachable (context.prepare threads program set grid).2
  | setPushConstants {context : Context ρ σ} (bytes : Bytes) :
      Reachable context → Reachable (context.setPushConstants bytes).2
  | setDynamicOffsets {context : Context ρ σ} (offsets : List Nat) :
      Reachable context → Reachable (context.setDynamicOffsets offsets).2
  | release {context : Context ρ σ} : Reachable context → Reachable context.release

/-- Wherever there is a program, the context is prepared for it. -/
theorem Reachable.exists_prepared {context : Context ρ σ} (h : context.Reachable)
    {program : Program ρ σ} (hprogram : context.program = some program) :
    ∃ threads grid, context.Prepared threads program grid := by
  induction h with
  | initial => cases hprogram
  | @prepare context threads other set grid _ ih =>
      rcases hprepare : context.prepare threads other set grid with ⟨failure | events, after⟩
      · obtain rfl := prepare_of_error hprepare
        rw [hprepare] at hprogram
        exact ih hprogram
      · have hprepared := prepared_of_prepare hprepare
        rw [hprepare] at hprogram
        obtain rfl : other = program := Option.some.inj (hprepared.program_eq.symm.trans hprogram)
        exact ⟨threads, grid, hprepared⟩
  | setPushConstants bytes _ ih =>
      by_cases hfits : bytes.size ≤ maxPush
      · rw [Context.setPushConstants, if_pos hfits] at hprogram ⊢
        obtain ⟨threads, grid, hprepared⟩ := ih hprogram
        exact ⟨threads, grid, { hprepared with }⟩
      · rw [Context.setPushConstants, if_neg hfits] at hprogram ⊢
        exact ih hprogram
  | setDynamicOffsets offsets _ ih =>
      by_cases hfits : offsets.length ≤ maxDynamic
      · rw [Context.setDynamicOffsets, if_pos hfits] at hprogram ⊢
        obtain ⟨threads, grid, hprepared⟩ := ih hprogram
        exact ⟨threads, grid, { hprepared with }⟩
      · rw [Context.setDynamicOffsets, if_neg hfits] at hprogram ⊢
        exact ih hprogram
  | release _ _ => cases hprogram

/-- The most subgroups a workgroup can have. -/
abbrev maxSubgroups : Nat := 1073741824

/-- Four invocations to a subgroup, the last one perhaps not full. -/
theorem subgroups_le_max {invocations : Nat} (h : invocations < lane) :
    (invocations + subgroupWidth - 1) / subgroupWidth ≤ maxSubgroups := by
  change (invocations + 4 - 1) / 4 ≤ 1073741824
  change invocations < 4294967296 at h
  omega

theorem Prepared.subgroups_le {context : Context ρ σ} {threads : Nat} {program : Program ρ σ}
    {grid : Coord} (h : context.Prepared threads program grid) :
    context.constants.subgroupsPerWorkgroup ≤ maxSubgroups := by
  rw [h.subgroups_eq]
  exact subgroups_le_max h.invocations_lt

/-- A queue of one workgroup can always take one more coroutine. -/
theorem room_of_le {length : Nat} (h : length ≤ maxSubgroups) : 2 * (length + 1) < word := by
  have hroom : 2 * (maxSubgroups + 1) < word := by decide
  omega

/-- The sizes of a context are within their bounds. -/
structure Bounded (context : Context ρ σ) : Prop where
  workgroups_lt : context.workgroups < word
  subgroups_le : context.constants.subgroupsPerWorkgroup ≤ maxSubgroups

theorem bounded_initial : (initial : Context ρ σ).Bounded :=
  ⟨(by decide : 0 < word), Nat.zero_le _⟩

/-- A preparation that does not succeed leaves the context as it was, and one that does has
had its sizes checked. -/
theorem Bounded.prepare {context : Context ρ σ} (h : context.Bounded) (threads : Nat)
    (program : Program ρ σ) (set : Bytes) (grid : Coord) :
    (context.prepare threads program set grid).2.Bounded := by
  unfold Context.prepare
  dsimp only
  split
  · exact h
  · next invocations workgroups haccept =>
      obtain ⟨hinvocations, hworkgroups⟩ := accept_lt haccept
      split
      · exact h
      · exact ⟨hworkgroups, subgroups_le_max hinvocations⟩

theorem Reachable.bounded {context : Context ρ σ} (h : context.Reachable) : context.Bounded := by
  induction h with
  | initial => exact bounded_initial
  | prepare threads program set grid _ ih => exact ih.prepare threads program set grid
  | setPushConstants bytes _ ih =>
      unfold Context.setPushConstants
      split
      · exact ⟨ih.workgroups_lt, ih.subgroups_le⟩
      · exact ih
  | setDynamicOffsets offsets _ ih =>
      unfold Context.setDynamicOffsets
      split
      · exact ⟨ih.workgroups_lt, ih.subgroups_le⟩
      · exact ih
  | release _ _ => exact bounded_initial

/-- There is no work without a program. -/
theorem Reachable.workgroups_eq_zero {context : Context ρ σ} (h : context.Reachable)
    (hprogram : context.program = none) : context.workgroups = 0 := by
  induction h with
  | initial => rfl
  | @prepare context threads program set grid _ ih =>
      unfold Context.prepare at hprogram ⊢
      dsimp only at hprogram ⊢
      split at hprogram
      · exact ih hprogram
      · split at hprogram
        · exact ih hprogram
        · cases hprogram
  | setPushConstants bytes _ ih =>
      by_cases hfits : bytes.size ≤ maxPush
      · rw [Context.setPushConstants, if_pos hfits] at hprogram ⊢
        exact ih hprogram
      · rw [Context.setPushConstants, if_neg hfits] at hprogram ⊢
        exact ih hprogram
  | setDynamicOffsets offsets _ ih =>
      by_cases hfits : offsets.length ≤ maxDynamic
      · rw [Context.setDynamicOffsets, if_pos hfits] at hprogram ⊢
        exact ih hprogram
      · rw [Context.setDynamicOffsets, if_neg hfits] at hprogram ⊢
        exact ih hprogram
  | release _ _ => rfl

/-! ## What follows for a dispatch -/

theorem Reachable.coroutineCount_le {context : Context ρ σ} (h : context.Reachable) :
    context.coroutineCount ≤ maxSubgroups := by
  unfold coroutineCount
  split
  · exact h.bounded.subgroups_le
  · decide

/-- Wherever there is a program, there are subgroups. -/
theorem Reachable.subgroups_pos {context : Context ρ σ} (h : context.Reachable)
    (hprogram : context.program.isSome) : 0 < context.constants.subgroupsPerWorkgroup := by
  obtain ⟨program, hprogram⟩ := Option.isSome_iff_exists.mp hprogram
  obtain ⟨threads, grid, hprepared⟩ := h.exists_prepared hprogram
  have hpos := hprepared.invocations_pos
  rw [hprepared.subgroups_eq]
  change 0 < (program.info.workgroupSize.volume + 4 - 1) / 4
  omega

/-- So every workgroup has a coroutine. -/
theorem Reachable.coroutineCount_pos {context : Context ρ σ} (h : context.Reachable)
    (hprogram : context.program.isSome) : 0 < context.coroutineCount := by
  unfold coroutineCount
  split
  · exact h.subgroups_pos hprogram
  · exact Nat.zero_lt_one

theorem Prepared.coroutineCount_le {context : Context ρ σ} {threads : Nat} {program : Program ρ σ}
    {grid : Coord} (h : context.Prepared threads program grid) :
    context.coroutineCount ≤ maxSubgroups := by
  unfold coroutineCount
  split
  · exact h.subgroups_le
  · decide

/-- A share has no more workgroups than the grid. -/
theorem shareSize_le (context : Context ρ σ) (thread : Nat) :
    context.shareSize thread ≤ context.workgroups := by
  have hstride : 0 < context.stride := Nat.lt_of_lt_of_le Nat.zero_lt_one (Nat.le_max_right _ _)
  -- the quotient is rounded up
  rw [shareSize, Nat.div_le_iff_le_mul_add_pred hstride]
  have hmul : context.workgroups ≤ context.stride * context.workgroups :=
    Nat.le_mul_of_pos_left _ hstride
  omega

theorem Reachable.shareSize_lt {context : Context ρ σ} (h : context.Reachable) (thread : Nat) :
    context.shareSize thread < word :=
  Nat.lt_of_le_of_lt (context.shareSize_le thread) h.bounded.workgroups_lt

end Context

/-! ## The simplest program -/

/-- Coroutines with nothing to do, whatever they share. They end when they are first resumed. -/
def idle (σ : Type) : Backend Unit σ where
  resume _ scene := ⟨.ok .ended, (), scene⟩
  destroy _ scene := scene

/-- A program of them. -/
def idleProgram (info : ProgramInfo) : Program Unit Unit where
  info := info
  start _ _ _ scene := (.ok (), scene)

end GridDispatch
