/-
The lanes of a workgroup.

The coroutines of a workgroup divide its invocations among them: a coroutine has some subgroups,
a subgroup has the next few linear numbers, and the last subgroup has what is left. Three
computations have to fit for this to come out even: the number of subgroups is a quotient rounded
up, coroutines are begun for single subgroups or for all of them at once, and the range of a
subgroup is clipped twice. `Prepared.mapM_fullCrew` puts them together for anything that is
computed subgroup by subgroup, in both ways of beginning; the lanes and the positions of a
workgroup are two cases of it.

All of it is lane arithmetic, and it can fault: the end of a range is formed before it is clipped,
and fits the lane for the subgroups below `roundSubgroups` only. So every answer here is a case
distinction, and what is said about lanes and positions is said about good answers.
-/
import GridDispatch.Proofs.Begun

set_option autoImplicit false

namespace GridDispatch

/-- The number of subgroups of a workgroup of this size, the last of which need not be full. -/
def subgroupCount (size : Coord) : Nat :=
  (size.volume + subgroupWidth - 1) / subgroupWidth

/-- The number of subgroups that end inside the lane before they are clipped. -/
abbrev roundSubgroups : Nat := 1073741823

/-- A subgroup of a workgroup begins at one of its invocations. -/
theorem lt_subgroupCount_iff (size : Coord) (subgroup : Nat) :
    subgroup < subgroupCount size ↔ subgroup * subgroupWidth < size.volume := by
  simp only [subgroupCount, subgroupWidth]
  omega

theorem lt_roundSubgroups_iff (subgroup : Nat) :
    subgroup < roundSubgroups ↔ subgroup * subgroupWidth + subgroupWidth < lane := by
  simp only [roundSubgroups, subgroupWidth, lane]
  omega

/-- All subgroups end inside the lane if one whole subgroup more would fit it. -/
theorem subgroupCount_le_roundSubgroups_iff (size : Coord) :
    subgroupCount size ≤ roundSubgroups ↔ size.volume + subgroupWidth ≤ lane := by
  simp only [subgroupCount, roundSubgroups, subgroupWidth, lane]
  omega

namespace Invocation

/-! ## Ranges of answers -/

/-- Answers that are good ones up to a limit. -/
theorem forRange_eq_ite {α : Type} {f : Nat → Except Fault α} {g : Nat → α} {limit : Nat}
    {fault : Fault} (count : Nat) : ∀ first ≤ limit,
    (∀ k, first ≤ k → k < first + count → f k = if k < limit then .ok (g k) else .error fault) →
    forRange f first count
      = if first + count ≤ limit then .ok ((List.range' first count).map g)
        else .error fault := by
  induction count with
  | zero =>
      intro first hle _
      exact (if_pos hle).symm
  | succ count ih =>
      intro first _ h
      have hfirst := h first (Nat.le_refl _) (by omega)
      rw [forRange, hfirst]
      by_cases hlimit : first < limit
      · have hrest := ih (first + 1) hlimit fun k hle hlt => h k (by omega) (by omega)
        rw [if_pos hlimit, hrest, List.range'_succ, List.map_cons]
        by_cases hall : first + 1 + count ≤ limit
        · rw [if_pos hall, if_pos (by omega)]
        · rw [if_neg hall, if_neg (by omega)]
      -- the first fault is the answer
      · rw [if_neg hlimit, if_neg (by omega)]

/-- Answers that are all good ones. -/
theorem forRange_eq_ok {α : Type} {f : Nat → Except Fault α} {g : Nat → α} {first count : Nat}
    (h : ∀ k, f k = .ok (g k)) :
    forRange f first count = .ok ((List.range' first count).map g) := by
  have hbelow : ∀ k, first ≤ k → k < first + count →
      f k = if k < first + count then .ok (g k) else .error .outOfRange := by
    intro k _ hlt
    rw [if_pos hlt, h k]
  rw [forRange_eq_ite count first (Nat.le_add_right _ _) hbelow, if_pos (Nat.le_refl _)]

theorem mapM_range'_eq_forRange {α : Type} (f : Nat → Except Fault α) (count : Nat) :
    ∀ first : Nat, (List.range' first count).mapM f = forRange f first count := by
  induction count with
  | zero => exact fun _ => rfl
  | succ count ih =>
      intro first
      rw [List.range'_succ, List.mapM_cons, ih (first + 1), forRange]
      cases f first with
      | error fault => rfl
      | ok head =>
          cases forRange f (first + 1) count with
          | error fault => rfl
          | ok tail => rfl

/-- Lists of answers, put together. -/
theorem flatten_mapM_range {α : Type} {f : Nat → Except Fault (List α)} {g : Nat → List α}
    {count limit : Nat} {fault : Fault}
    (h : ∀ k < count, f k = if k < limit then .ok (g k) else .error fault) :
    ((List.range count).mapM f).map List.flatten
      = if count ≤ limit then .ok ((List.range count).flatMap g) else .error fault := by
  have hall := forRange_eq_ite count 0 (Nat.zero_le limit) fun k _ hlt => h k (by omega)
  rw [List.range_eq_range', mapM_range'_eq_forRange, hall, Nat.zero_add]
  split
  · rw [List.flatMap_def]
    rfl
  · rfl

section Whole

variable {α : Type} {answer : Except Fault (List (List α))} {parts : List (List α)}
  {whole : List α} {condition : Prop} [Decidable condition] {fault : Fault}
  (h : answer.map List.flatten = if condition then .ok whole else .error fault)

include h

/-- Parts that are good answers make up the whole. -/
theorem flatten_of_map_eq_ite (hparts : answer = .ok parts) : parts.flatten = whole := by
  rw [hparts] at h
  exact (Checked.ite_eq_ok_iff.mp h.symm).2.symm

theorem exists_ok_iff_of_map_eq_ite : (∃ parts, answer = .ok parts) ↔ condition := by
  constructor
  · rintro ⟨parts, hparts⟩
    rw [hparts] at h
    exact (Checked.ite_eq_ok_iff.mp h.symm).1
  · intro hcondition
    rw [if_pos hcondition] at h
    cases answer with
    | error fault => cases h
    | ok parts => exact ⟨parts, rfl⟩

end Whole

/-! ## A coroutine -/

/-- The constants of a coroutine say that workgroups have this size, and it is one that is
accepted. -/
structure HasSize (i : Invocation) (size : Coord) : Prop where
  size_eq : i.constants.workgroupSize.coord = size
  volume_pos : 0 < size.volume
  volume_lt : size.volume < lane

/-- A coroutine of a workgroup of this size: its constants were derived from the size, and it has
some of the subgroups. -/
structure Serves (i : Invocation) (size : Coord) : Prop extends i.HasSize size where
  width_eq : i.constants.invocationsPerSubgroup = subgroupWidth
  invocations_eq : i.constants.invocationsPerWorkgroup = size.volume
  count_pos : 0 < i.subgroups.count
  stop_le : i.subgroups.first + i.subgroups.count ≤ subgroupCount size

/-- The linear numbers of a subgroup, as first and end. -/
def rangeOf (size : Coord) (subgroup : Nat) : Nat × Nat :=
  (subgroup * subgroupWidth, min (subgroup * subgroupWidth + subgroupWidth) size.volume)

/-- The numbers from a first one up to an end. -/
def numbers (range : Nat × Nat) : List Nat :=
  List.range' range.1 (range.2 - range.1)

/-- The positions of a subgroup. -/
def positionsOf (size : Coord) (subgroup : Nat) : List Coord :=
  (numbers (rangeOf size subgroup)).map (Coord.ofLinear size)

/-- A linear number can always be decoded. -/
theorem HasSize.localId_eq {i : Invocation} {size : Coord} (h : i.HasSize size) (index : Nat) :
    i.localId index = .ok (Coord.ofLinear size index) := by
  obtain ⟨hx, hy, hz⟩ := Coord.sides_pos_of_volume_pos h.volume_pos
  have hlayer : size.x * size.y < lane := by
    have hle : size.x * size.y ≤ size.x * size.y * size.z := Nat.le_mul_of_pos_right _ hz
    exact Nat.lt_of_le_of_lt hle h.volume_lt
  simp only [localId, h.size_eq, bind, Except.bind, pure, Except.pure, Checked.rem_eq_ok hx,
    Checked.div_eq_ok hx, Checked.rem_eq_ok hy, Checked.mul_eq_ok hlayer,
    Checked.div_eq_ok (Nat.mul_pos hx hy), Coord.ofLinear_eq]

namespace Serves

variable {i : Invocation} {size : Coord}

theorem subgroupCount_le (h : i.Serves size) : subgroupCount size ≤ Context.maxSubgroups := by
  have hlt := h.volume_lt
  simp only [subgroupCount, subgroupWidth, lane, Context.maxSubgroups] at hlt ⊢
  omega

/-- The end of a range of subgroups fits the lane. -/
theorem stop_eq (h : i.Serves size) :
    i.subgroups.stop = .ok (i.subgroups.first + i.subgroups.count) := by
  have hle : i.subgroups.first + i.subgroups.count ≤ Context.maxSubgroups :=
    Nat.le_trans h.stop_le h.subgroupCount_le
  have hmax : Context.maxSubgroups < lane := by decide
  exact Checked.add_eq_ok (Nat.lt_of_le_of_lt hle hmax)

/-- The range of a subgroup can be computed unless its end, before it is clipped, leaves the
lane. -/
theorem subgroupRange_eq (h : i.Serves size) {subgroup : Nat}
    (hsubgroup : subgroup < subgroupCount size) :
    i.subgroupRange subgroup = if subgroup < roundSubgroups then .ok (rangeOf size subgroup)
      else .error (.arithmetic .add) := by
  have hstart : subgroup * subgroupWidth < size.volume :=
    (lt_subgroupCount_iff size subgroup).mp hsubgroup
  have hmul : Checked.mul lane subgroup subgroupWidth = .ok (subgroup * subgroupWidth) :=
    Checked.mul_eq_ok (Nat.lt_trans hstart h.volume_lt)
  have hclip : min (subgroup * subgroupWidth) size.volume = subgroup * subgroupWidth :=
    Nat.min_eq_left hstart.le
  simp only [subgroupRange, h.width_eq, h.invocations_eq, hmul, bind, Except.bind, hclip]
  by_cases hround : subgroup < roundSubgroups
  · have hend := (lt_roundSubgroups_iff subgroup).mp hround
    rw [if_pos hround, Checked.add_eq_ok hend]
    rfl
  · have hend := (lt_roundSubgroups_iff subgroup).not.mp hround
    rw [if_neg hround, Checked.add_eq_error (Nat.not_lt.mp hend)]

/-- What is computed subgroup by subgroup faults if one of the subgroups has no end that fits. -/
theorem forSubgroups_eq (h : i.Serves size) {α : Type} {f : Nat → Except Fault α} {g : Nat → α}
    (hf : ∀ subgroup < subgroupCount size, f subgroup
      = if subgroup < roundSubgroups then .ok (g subgroup) else .error (.arithmetic .add)) :
    i.forSubgroups f = if i.subgroups.first + i.subgroups.count ≤ roundSubgroups
      then .ok ((List.range' i.subgroups.first i.subgroups.count).map g)
      else .error (.arithmetic .add) := by
  have hstop := h.stop_le
  have hpos := h.count_pos
  have hfirst : i.subgroups.first ≤ roundSubgroups := by
    have hmax := h.subgroupCount_le
    simp only [roundSubgroups, Context.maxSubgroups] at hmax ⊢
    omega
  rw [forSubgroups, h.stop_eq]
  exact forRange_eq_ite i.subgroups.count i.subgroups.first hfirst fun k _ hlt => hf k (by omega)

theorem lanes_eq (h : i.Serves size) :
    i.lanes = if i.subgroups.first + i.subgroups.count ≤ roundSubgroups
      then .ok ((List.range' i.subgroups.first i.subgroups.count).flatMap
        fun subgroup => [(subgroup, rangeOf size subgroup)])
      else .error (.arithmetic .add) := by
  have hf : ∀ subgroup < subgroupCount size,
      (do let range ← i.subgroupRange subgroup; return (subgroup, range) : Except Fault _)
        = if subgroup < roundSubgroups then .ok (subgroup, rangeOf size subgroup)
          else .error (.arithmetic .add) := by
    intro subgroup hsubgroup
    rw [h.subgroupRange_eq hsubgroup]
    split
    · rfl
    · rfl
  rw [lanes, h.forSubgroups_eq hf, List.map_eq_flatMap]

theorem localIds_eq (h : i.Serves size) :
    i.localIds = if i.subgroups.first + i.subgroups.count ≤ roundSubgroups
      then .ok ((List.range' i.subgroups.first i.subgroups.count).flatMap (positionsOf size))
      else .error (.arithmetic .add) := by
  have hf : ∀ subgroup < subgroupCount size,
      (do let range ← i.subgroupRange subgroup
          forRange i.localId range.1 (range.2 - range.1) : Except Fault _)
        = if subgroup < roundSubgroups then .ok (positionsOf size subgroup)
          else .error (.arithmetic .add) := by
    intro subgroup hsubgroup
    rw [h.subgroupRange_eq hsubgroup]
    split
    · exact forRange_eq_ok h.toHasSize.localId_eq
    · rfl
  rw [localIds, visit, h.forSubgroups_eq hf]
  split
  · rfl
  · rfl

end Serves

end Invocation

/-! ## The subgroups of a workgroup together -/

namespace Invocation

/-- The ranges of the first subgroups, one after another, are an initial piece of the linear
numbers. -/
theorem flatMap_numbers (size : Coord) (count : Nat) :
    (List.range count).flatMap (fun subgroup => numbers (rangeOf size subgroup))
      = List.range (min (count * subgroupWidth) size.volume) := by
  induction count with
  | zero => rw [Nat.zero_mul, Nat.zero_min, List.range_zero, List.flatMap_nil]
  | succ count ih =>
      rw [List.range_succ, List.flatMap_append, ih, List.flatMap_singleton, numbers, rangeOf,
        Nat.succ_mul]
      by_cases hstart : count * subgroupWidth ≤ size.volume
      · rw [Nat.min_eq_left hstart, List.range_eq_range', List.range_eq_range']
        have hlength : min (count * subgroupWidth + subgroupWidth) size.volume
            = count * subgroupWidth
              + (min (count * subgroupWidth + subgroupWidth) size.volume
                - count * subgroupWidth) := by
          omega
        rw [hlength, ← List.range'_append_1, Nat.zero_add, Nat.add_sub_cancel_left]
      -- a subgroup behind the last invocation has no numbers
      · have hnone : min (count * subgroupWidth + subgroupWidth) size.volume
            - count * subgroupWidth = 0 := by
          omega
        rw [hnone, List.range'_zero, List.append_nil, Nat.min_eq_right (by omega),
          Nat.min_eq_right (by omega)]

theorem volume_le_subgroupCount (size : Coord) :
    size.volume ≤ subgroupCount size * subgroupWidth := by
  simp only [subgroupCount, subgroupWidth]
  omega

/-- All subgroups have all numbers. -/
theorem flatMap_numbers_all (size : Coord) :
    (List.range (subgroupCount size)).flatMap (fun subgroup => numbers (rangeOf size subgroup))
      = List.range size.volume := by
  rw [flatMap_numbers, Nat.min_eq_right (volume_le_subgroupCount size)]

/-- And all positions. -/
theorem flatMap_positionsOf_all (size : Coord) :
    (List.range (subgroupCount size)).flatMap (positionsOf size) = size.all := by
  rw [Coord.all, ← flatMap_numbers_all, List.map_flatMap]
  rfl

/-- Subgroups, each with its range of numbers, make up a workgroup of this size. -/
structure CoversLanes (size : Coord) (lanes : List (Nat × Nat × Nat)) : Prop where
  subgroups_eq : lanes.map Prod.fst = List.range (subgroupCount size)
  numbers_eq : (lanes.flatMap fun lane => numbers lane.2) = List.range size.volume
  /-- All but the last are full. -/
  full : ∀ lane ∈ lanes.dropLast, lane.2.2 = lane.2.1 + subgroupWidth
  last : ∃ lane, lanes.getLast? = some lane
    ∧ lane.2.1 < lane.2.2 ∧ lane.2.2 ≤ lane.2.1 + subgroupWidth

/-- Positions are those of a workgroup of this size. -/
structure CoversPositions (size : Coord) (positions : List Coord) : Prop where
  nodup : positions.Nodup
  mem_iff : ∀ c, c ∈ positions ↔ c.inside size
  /-- They stand in the order of their numbers, `x` fastest. -/
  numbers_eq : positions.map size.linear = List.range size.volume

theorem coversPositions_all (size : Coord) : CoversPositions size size.all :=
  ⟨size.nodup_all, fun _ => Coord.mem_all, size.map_linear_all⟩

theorem coversLanes_map {size : Coord} (hpos : 0 < size.volume) :
    CoversLanes size ((List.range (subgroupCount size)).map
      fun subgroup => (subgroup, rangeOf size subgroup)) := by
  have hsplit : ∃ before, subgroupCount size = before + 1 := by
    have hfirst := (lt_subgroupCount_iff size 0).mpr (by rwa [Nat.zero_mul])
    exact ⟨subgroupCount size - 1, by omega⟩
  obtain ⟨before, hcount⟩ := hsplit
  have hbelow : ∀ subgroup < subgroupCount size, subgroup * subgroupWidth < size.volume :=
    fun subgroup => (lt_subgroupCount_iff size subgroup).mp
  refine ⟨?_, ?_, ?_, ?_⟩
  · rw [List.map_map]
    exact List.map_id _
  · rw [List.flatMap_map]
    exact flatMap_numbers_all size
  · rw [hcount, List.range_succ, List.map_append, List.map_singleton, List.dropLast_concat]
    intro lane hlane
    obtain ⟨subgroup, hsubgroup, rfl⟩ := List.mem_map.mp hlane
    -- the next subgroup begins at an invocation, so this one is full
    have hbefore : subgroup < before := List.mem_range.mp hsubgroup
    have hnext := hbelow (subgroup + 1) (by omega)
    rw [Nat.succ_mul] at hnext
    exact Nat.min_eq_left hnext.le
  · rw [hcount, List.range_succ, List.map_append, List.map_singleton, List.getLast?_concat]
    have hlast := hbelow before (by omega)
    refine ⟨_, rfl, ?_, Nat.min_le_left _ _⟩
    exact Nat.lt_min.mpr ⟨Nat.lt_add_of_pos_right (by decide), hlast⟩

end Invocation

/-! ## The coroutines of a workgroup together -/

/-- The subgroups of the coroutines of a workgroup: one coroutine has one subgroup if they meet at
barriers, and all of them otherwise. -/
def partsOf (info : ProgramInfo) : List Subgroups :=
  if info.hasBarriers then
    (List.range (subgroupCount info.workgroupSize)).map fun subgroup => ⟨subgroup, 1⟩
  else [⟨0, subgroupCount info.workgroupSize⟩]

namespace Context

variable {ρ σ : Type} {context : Context ρ σ} {threads : Nat} {program : Program ρ σ}
  {grid workgroup : Coord}

namespace Prepared

variable (h : context.Prepared threads program grid)

include h

theorem coroutineParts_eq : context.coroutineParts = partsOf program.info := by
  have hcount : context.constants.subgroupsPerWorkgroup
      = subgroupCount program.info.workgroupSize := h.subgroups_eq
  have hpart : context.coroutinePart = fun index => if program.info.hasBarriers then ⟨index, 1⟩
      else ⟨0, subgroupCount program.info.workgroupSize⟩ := by
    funext index
    rw [coroutinePart, h.hasBarriers_eq, hcount]
  rw [coroutineParts, coroutineCount, partsOf, h.hasBarriers_eq, hcount, hpart]
  by_cases hbarriers : program.info.hasBarriers
  · simp only [if_pos hbarriers]
  · simp only [if_neg hbarriers, List.range_one, List.map_singleton]

theorem hasSize (workgroup : Coord) (part : Subgroups) :
    Invocation.HasSize ⟨context.constants, workgroup, part⟩ program.info.workgroupSize :=
  ⟨h.size_eq, h.invocations_pos, h.invocations_lt⟩

/-- A coroutine that is begun has subgroups of the workgroup, at least one. -/
theorem serves {i : Invocation} (hi : i ∈ context.fullCrew workgroup) :
    i.Serves program.info.workgroupSize := by
  obtain ⟨part, hpart, rfl⟩ := List.mem_map.mp hi
  have hfirst : 0 < subgroupCount program.info.workgroupSize :=
    (lt_subgroupCount_iff _ 0).mpr (by rw [Nat.zero_mul]; exact h.invocations_pos)
  have hpart : 0 < part.count
      ∧ part.first + part.count ≤ subgroupCount program.info.workgroupSize := by
    rw [h.coroutineParts_eq, partsOf] at hpart
    split at hpart
    · obtain ⟨subgroup, hsubgroup, rfl⟩ := List.mem_map.mp hpart
      exact ⟨Nat.one_pos, List.mem_range.mp hsubgroup⟩
    · rw [List.mem_singleton] at hpart
      subst hpart
      exact ⟨hfirst, (Nat.zero_add _).le⟩
  exact ⟨h.hasSize workgroup part, h.width_eq, h.invocations_eq, hpart.1, hpart.2⟩

/-- **What the coroutines of a workgroup compute subgroup by subgroup** is computed for all its
subgroups in order, whether there is a coroutine for each of them or one for all. -/
theorem mapM_fullCrew {α : Type} {eval : Invocation → Except Fault (List α)} {g : Nat → List α}
    (heval : ∀ i : Invocation, i.Serves program.info.workgroupSize →
      eval i = if i.subgroups.first + i.subgroups.count ≤ roundSubgroups
        then .ok ((List.range' i.subgroups.first i.subgroups.count).flatMap g)
        else .error (.arithmetic .add)) (workgroup : Coord) :
    ((context.fullCrew workgroup).mapM eval).map List.flatten
      = if subgroupCount program.info.workgroupSize ≤ roundSubgroups
        then .ok ((List.range (subgroupCount program.info.workgroupSize)).flatMap g)
        else .error (.arithmetic .add) := by
  have hserves : ∀ part ∈ partsOf program.info,
      (⟨context.constants, workgroup, part⟩ : Invocation).Serves program.info.workgroupSize := by
    intro part hpart
    rw [← h.coroutineParts_eq] at hpart
    exact h.serves (List.mem_map.mpr ⟨part, hpart, rfl⟩)
  rw [fullCrew, h.coroutineParts_eq]
  by_cases hbarriers : program.info.hasBarriers
  · rw [partsOf, if_pos hbarriers] at hserves ⊢
    rw [List.map_map, List.mapM_map]
    -- a coroutine answers for its one subgroup
    apply Invocation.flatten_mapM_range
    intro subgroup hlt
    have hmem := List.mem_map_of_mem (f := fun subgroup : Nat => (⟨subgroup, 1⟩ : Subgroups))
      (List.mem_range.mpr hlt)
    rw [Function.comp_apply, Function.comp_apply, heval _ (hserves _ hmem), List.range'_one,
      List.flatMap_singleton]
    rfl
  -- the only coroutine answers for all
  · rw [partsOf, if_neg hbarriers] at hserves ⊢
    have hone := heval _ (hserves _ List.mem_cons_self)
    rw [Nat.zero_add] at hone
    rw [List.map_singleton, List.mapM_cons, hone, List.range_eq_range']
    split
    · refine congrArg Except.ok ?_
      exact List.append_nil _
    · rfl

end Prepared

/-- The coroutines of a workgroup, in the order in which they are begun, if all of them are begun:
the dispatch returns, or it breaks off later. Program, coroutines, grid, thread and the state that
the thread is in are arbitrary, up to the description of the program. -/
inductive Crewed (info : ProgramInfo) : List Invocation → Prop
  | of_dispatch {ρ σ : Type} {before context : Context ρ σ} {threads thread : Nat}
      {program : Program ρ σ} {set : Bytes} {grid workgroup : Coord} {events : List Event}
      {backend : Backend ρ σ} {run : Run ρ σ} :
      program.info = info →
      before.prepare threads program set grid = (.ok events, context) →
      workgroup ∈ context.workgroupsFor thread →
      (∃ stats, (context.dispatch backend thread run).1 = .ok stats)
        ∨ (context.crew backend thread run workgroup).length = context.coroutineCount →
      Crewed info (context.crew backend thread run workgroup)

namespace Crewed

variable {info : ProgramInfo} {crew : List Invocation}

/-- They are what a prepared context prescribes. -/
theorem exists_prepared (h : Crewed info crew) :
    ∃ (ρ σ : Type) (context : Context ρ σ) (threads : Nat) (program : Program ρ σ)
      (grid workgroup : Coord), program.info = info ∧ context.Prepared threads program grid
        ∧ crew = context.fullCrew workgroup := by
  obtain @⟨ρ, σ, _, context, threads, thread, program, _, grid, workgroup, _, backend, run, hinfo,
    hprepare, hmem, hall⟩ := h
  refine ⟨ρ, σ, context, threads, program, grid, workgroup, hinfo, prepared_of_prepare hprepare, ?_⟩
  obtain ⟨stats, hstats⟩ | hlength := hall
  · exact crew_eq_fullCrew hstats hmem
  · have hpiece := context.crew_prefix backend thread run workgroup
    rw [if_pos hmem] at hpiece
    apply hpiece.eq_of_length
    rw [hlength, fullCrew, coroutineParts, List.length_map, List.length_map, List.length_range]

theorem volume_pos (h : Crewed info crew) : 0 < info.workgroupSize.volume := by
  obtain ⟨ρ, σ, context, threads, program, grid, workgroup, rfl, hprepared, rfl⟩ :=
    h.exists_prepared
  exact hprepared.invocations_pos

theorem map_subgroups (h : Crewed info crew) : crew.map Invocation.subgroups = partsOf info := by
  obtain ⟨ρ, σ, context, threads, program, grid, workgroup, rfl, hprepared, rfl⟩ :=
    h.exists_prepared
  rw [fullCrew, List.map_map, ← hprepared.coroutineParts_eq]
  exact List.map_id _

theorem subgroupsPerWorkgroup_eq (h : Crewed info crew) {i : Invocation} (hi : i ∈ crew) :
    i.constants.subgroupsPerWorkgroup = subgroupCount info.workgroupSize := by
  obtain ⟨ρ, σ, context, threads, program, grid, workgroup, rfl, hprepared, rfl⟩ :=
    h.exists_prepared
  obtain ⟨part, -, rfl⟩ := List.mem_map.mp hi
  exact hprepared.subgroups_eq

theorem mapM_lanes (h : Crewed info crew) :
    (crew.mapM Invocation.lanes).map List.flatten
      = if subgroupCount info.workgroupSize ≤ roundSubgroups
        then .ok ((List.range (subgroupCount info.workgroupSize)).map
          fun subgroup => (subgroup, Invocation.rangeOf info.workgroupSize subgroup))
        else .error (.arithmetic .add) := by
  obtain ⟨ρ, σ, context, threads, program, grid, workgroup, rfl, hprepared, rfl⟩ :=
    h.exists_prepared
  rw [hprepared.mapM_fullCrew fun i hi => hi.lanes_eq, List.map_eq_flatMap]

theorem mapM_localIds (h : Crewed info crew) :
    (crew.mapM Invocation.localIds).map List.flatten
      = if subgroupCount info.workgroupSize ≤ roundSubgroups
        then .ok info.workgroupSize.all
        else .error (.arithmetic .add) := by
  obtain ⟨ρ, σ, context, threads, program, grid, workgroup, rfl, hprepared, rfl⟩ :=
    h.exists_prepared
  rw [hprepared.mapM_fullCrew fun i hi => hi.localIds_eq, Invocation.flatMap_positionsOf_all]

end Crewed

/-! ## One workgroup of the simplest program -/

/-- A context for it. -/
def idleContext (info : ProgramInfo) : Context Unit Unit :=
  (initial.prepare 1 (idleProgram info) #[] ⟨1, 1, 1⟩).2

/-- The coroutines that a new thread begins. -/
def idleCrew (info : ProgramInfo) : List Invocation :=
  (idleContext info).crew (idle Unit) 0 ⟨.initial, (), #[]⟩ ⟨0, 0, 0⟩

section Idle

variable (info : ProgramInfo) (events : List Event) (stats : Stats)
  (haccepted : (initial.prepare 1 (idleProgram info) #[] ⟨1, 1, 1⟩).1 = .ok events)
  (hreturned : ((idleContext info).dispatch (idle Unit) 0 ⟨.initial, (), #[]⟩).1 = .ok stats)

include haccepted

theorem prepare_idleContext :
    initial.prepare 1 (idleProgram info) #[] ⟨1, 1, 1⟩ = (.ok events, idleContext info) :=
  Prod.ext haccepted rfl

theorem mem_workgroupsFor_idleContext :
    (⟨0, 0, 0⟩ : Coord) ∈ (idleContext info).workgroupsFor 0 := by
  have hprepared := prepared_of_prepare (prepare_idleContext info events haccepted)
  exact (hprepared.mem_workgroupsFor_iff Nat.one_pos).mpr (by decide)

include hreturned

theorem crewed_idleCrew : Crewed info (idleCrew info) :=
  .of_dispatch rfl (prepare_idleContext info events haccepted)
    (mem_workgroupsFor_idleContext info events haccepted) (.inl ⟨stats, hreturned⟩)

theorem idleCrew_eq :
    idleCrew info
      = (partsOf info).map fun part => ⟨(idleContext info).constants, ⟨0, 0, 0⟩, part⟩ := by
  have hprepared := prepared_of_prepare (prepare_idleContext info events haccepted)
  have hfull : idleCrew info = (idleContext info).fullCrew ⟨0, 0, 0⟩ :=
    crew_eq_fullCrew hreturned (mem_workgroupsFor_idleContext info events haccepted)
  rw [hfull, fullCrew, hprepared.coroutineParts_eq]
  rfl

end Idle

/-! ## The cover -/

/-- **The coroutines of a workgroup cover its invocations exactly once**, if what they have can be
computed, and it can unless the workgroup nearly exhausts the lane. It is the same whether there is
a coroutine for each subgroup or one for all. -/
theorem crew_covers {info : ProgramInfo} {crew : List Invocation} (h : Crewed info crew) :
    (crew.map Invocation.subgroups = partsOf info
      ∧ ∀ i ∈ crew, i.constants.subgroupsPerWorkgroup = subgroupCount info.workgroupSize)
    ∧ (∀ parts, crew.mapM Invocation.lanes = .ok parts →
        Invocation.CoversLanes info.workgroupSize parts.flatten)
    ∧ (∀ parts, crew.mapM Invocation.localIds = .ok parts →
        Invocation.CoversPositions info.workgroupSize parts.flatten)
    ∧ (((∃ parts, crew.mapM Invocation.lanes = .ok parts)
          ↔ info.workgroupSize.volume + subgroupWidth ≤ lane)
      ∧ ((∃ parts, crew.mapM Invocation.localIds = .ok parts)
          ↔ info.workgroupSize.volume + subgroupWidth ≤ lane))
    ∧ ∀ info' crew', Crewed info' crew' → info'.workgroupSize = info.workgroupSize →
        (crew'.mapM Invocation.lanes).map List.flatten
          = (crew.mapM Invocation.lanes).map List.flatten
        ∧ (crew'.mapM Invocation.localIds).map List.flatten
          = (crew.mapM Invocation.localIds).map List.flatten := by
  refine ⟨⟨h.map_subgroups, fun i hi => h.subgroupsPerWorkgroup_eq hi⟩, ?_, ?_, ⟨?_, ?_⟩, ?_⟩
  · intro parts hparts
    rw [Invocation.flatten_of_map_eq_ite h.mapM_lanes hparts]
    exact Invocation.coversLanes_map h.volume_pos
  · intro parts hparts
    rw [Invocation.flatten_of_map_eq_ite h.mapM_localIds hparts]
    exact Invocation.coversPositions_all _
  · rw [Invocation.exists_ok_iff_of_map_eq_ite h.mapM_lanes, subgroupCount_le_roundSubgroups_iff]
  · rw [Invocation.exists_ok_iff_of_map_eq_ite h.mapM_localIds, subgroupCount_le_roundSubgroups_iff]
  · intro info' crew' h' hsize
    rw [h'.mapM_lanes, h.mapM_lanes, h'.mapM_localIds, h.mapM_localIds, hsize]
    exact ⟨rfl, rfl⟩

/-- Nine invocations in three subgroups, with and without barriers. -/
theorem crew_covers_nine :
    let meeting : ProgramInfo := ⟨0, true, 0, ⟨3, 3, 1⟩⟩
    let alone : ProgramInfo := ⟨0, false, 0, ⟨3, 3, 1⟩⟩
    let lanes := [[(0, 0, 4)], [(1, 4, 8)], [(2, 8, 9)]]
    (Crewed meeting (idleCrew meeting) ∧ Crewed alone (idleCrew alone))
    ∧ ((idleCrew meeting).mapM Invocation.lanes = .ok lanes
      ∧ Invocation.CoversLanes ⟨3, 3, 1⟩ lanes.flatten)
    ∧ (∃ parts, (idleCrew meeting).mapM Invocation.localIds = .ok parts
      ∧ Invocation.CoversPositions ⟨3, 3, 1⟩ parts.flatten)
    ∧ ((idleCrew alone).mapM Invocation.lanes).map List.flatten
      = ((idleCrew meeting).mapM Invocation.lanes).map List.flatten := by
  intro meeting alone lanes
  have hmeeting : Crewed meeting (idleCrew meeting) :=
    crewed_idleCrew meeting [] ⟨1, 3, 3⟩ (by decide +kernel) (by decide +kernel)
  have halone : Crewed alone (idleCrew alone) :=
    crewed_idleCrew alone [] ⟨1, 1, 1⟩ (by decide +kernel) (by decide +kernel)
  have hlanes : (idleCrew meeting).mapM Invocation.lanes = .ok lanes := by decide +kernel
  obtain ⟨-, hcovers, hpositions, ⟨-, hcomputed⟩, hsame⟩ := crew_covers hmeeting
  obtain ⟨parts, hparts⟩ := hcomputed.mpr (by decide)
  exact ⟨⟨hmeeting, halone⟩, ⟨hlanes, hcovers lanes hlanes⟩,
    ⟨parts, hparts, hpositions parts hparts⟩, (hsame alone _ halone rfl).1⟩

end Context

end GridDispatch
