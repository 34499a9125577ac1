/-
What a coroutine can compute of its share.

Three things could go wrong in lane arithmetic: a product could leave the lane, a sum could, and a
divisor could be zero. The products are below the number of invocations, which fits the lane, and
the divisors are sides of a workgroup that is not empty. The end of a range of subgroups fits as
well, because there are far fewer subgroups than invocations.

That leaves one sum, the end of a subgroup before it is clipped. It leaves the lane for one
subgroup only: the last one of a workgroup that is so large that a whole subgroup more would not
fit the lane. A coroutine that has this subgroup can compute neither its lanes nor its positions,
although each of them fits, and every other coroutine can compute all of them
(`completes_iff_of_prepare`). It happens for the three largest numbers of invocations that are
accepted; `subgroupRange_largest` has the largest one.
-/
import GridDispatch.Proofs.Lanes

set_option autoImplicit false

namespace GridDispatch

namespace Invocation

/-- Whatever a coroutine asks about its subgroups is answered. -/
structure Completes (i : Invocation) : Prop where
  stop : ∃ stop, i.subgroups.stop = .ok stop
  ranges : ∀ subgroup ∈ i.subgroups.toList, ∃ range, i.subgroupRange subgroup = .ok range
  lanes : ∃ lanes, i.lanes = .ok lanes
  localIds : ∃ positions, i.localIds = .ok positions

namespace Serves

variable {i : Invocation} {size : Coord}

theorem lt_of_mem_toList (h : i.Serves size) {subgroup : Nat}
    (hmem : subgroup ∈ i.subgroups.toList) : subgroup < subgroupCount size := by
  obtain ⟨-, hlt⟩ := List.mem_range'_1.mp hmem
  exact Nat.lt_of_lt_of_le hlt h.stop_le

/-- Subgroups of a workgroup are round, the last one of the largest workgroups excepted. -/
theorem le_roundSubgroups_iff (h : i.Serves size) {stop : Nat} (hstop : stop ≤ subgroupCount size) :
    stop ≤ roundSubgroups ↔ size.volume + subgroupWidth ≤ lane ∨ stop < subgroupCount size := by
  have hmax := h.subgroupCount_le
  rw [← subgroupCount_le_roundSubgroups_iff]
  simp only [roundSubgroups, Context.maxSubgroups] at hmax ⊢
  omega

theorem completes_iff (h : i.Serves size) :
    i.Completes ↔ i.subgroups.first + i.subgroups.count ≤ roundSubgroups := by
  constructor
  · intro hcompletes
    obtain ⟨lanes, hlanes⟩ := hcompletes.lanes
    by_contra hround
    rw [h.lanes_eq, if_neg hround] at hlanes
    cases hlanes
  · intro hround
    refine ⟨⟨_, h.stop_eq⟩, ?_, ⟨_, h.lanes_eq.trans (if_pos hround)⟩,
      ⟨_, h.localIds_eq.trans (if_pos hround)⟩⟩
    intro subgroup hmem
    have hbelow : subgroup < roundSubgroups :=
      Nat.lt_of_lt_of_le (List.mem_range'_1.mp hmem).2 hround
    exact ⟨_, (h.subgroupRange_eq (h.lt_of_mem_toList hmem)).trans (if_pos hbelow)⟩

end Serves

end Invocation

namespace Context

/-- **Lane arithmetic faults in one place only.** Of the coroutines that a dispatch begins, whatever
becomes of the dispatch, those complete that do not have the last subgroup of a workgroup with
fewer than `subgroupWidth` invocations left to the end of the lane. -/
theorem completes_iff_of_prepare {ρ σ : Type} {before context : Context ρ σ} {threads : Nat}
    {program : Program ρ σ} {set : Bytes} {grid : Coord} {events : List Event}
    (hprepare : before.prepare threads program set grid = (.ok events, context))
    (backend : Backend ρ σ) (thread : Nat) (run : Run ρ σ) (workgroup : Coord) {i : Invocation}
    (hi : i ∈ context.crew backend thread run workgroup) :
    let size := program.info.workgroupSize
    (∃ stop, i.subgroups.stop = .ok stop)
    ∧ (∀ subgroup ∈ i.subgroups.toList, i.subgroupRange subgroup
        = if size.volume + subgroupWidth ≤ lane ∨ subgroup + 1 < subgroupCount size
          then .ok (Invocation.rangeOf size subgroup) else .error (.arithmetic .add))
    ∧ (∀ index, ∃ position, i.localId index = .ok position)
    ∧ (i.Completes ↔ size.volume + subgroupWidth ≤ lane
        ∨ i.subgroups.first + i.subgroups.count < subgroupCount size) := by
  intro size
  obtain ⟨-, hfull⟩ := mem_fullCrew_of_mem_crew hi
  have hserves : i.Serves size := (prepared_of_prepare hprepare).serves hfull
  refine ⟨⟨_, hserves.stop_eq⟩, ?_, fun index => ⟨_, hserves.localId_eq index⟩, ?_⟩
  · intro subgroup hmem
    have hlt := hserves.lt_of_mem_toList hmem
    rw [hserves.subgroupRange_eq hlt]
    exact if_congr (hserves.le_roundSubgroups_iff hlt) rfl rfl
  · rw [hserves.completes_iff]
    exact hserves.le_roundSubgroups_iff hserves.stop_le

/-- A workgroup of five completes. -/
theorem completes_iff_of_prepare_five :
    let info : ProgramInfo := .ofSize ⟨5, 1, 1⟩
    let i : Invocation := ⟨(idleContext info).constants, ⟨0, 0, 0⟩, ⟨0, 2⟩⟩
    initial.prepare 1 (idleProgram info) #[] ⟨1, 1, 1⟩ = (.ok [], idleContext info)
      ∧ i ∈ idleCrew info ∧ i.Completes ∧ i.subgroupRange 1 = .ok (4, 5) := by
  intro info i
  have hprepare := prepare_idleContext info [] (by decide +kernel)
  have hparts : partsOf info = [⟨0, 2⟩] := by decide
  have hcrew : idleCrew info = [i] := by
    rw [idleCrew_eq info [] ⟨1, 1, 1⟩ (by decide +kernel) (by decide +kernel), hparts,
      List.map_singleton]
  have hmem : i ∈ idleCrew info := by
    rw [hcrew]
    exact List.mem_singleton_self i
  obtain ⟨-, hranges, -, hcompletes⟩ := completes_iff_of_prepare hprepare (idle Unit) 0
    ⟨.initial, (), #[]⟩ ⟨0, 0, 0⟩ hmem
  exact ⟨hprepare, hmem, hcompletes.mpr (.inl (by decide)), hranges 1 (by decide)⟩

/-- A dispatch that is accepted and returns, and begins a coroutine that cannot compute the range
of its last subgroup. The three invocations there are within the lane. -/
theorem subgroupRange_largest :
    let info : ProgramInfo := .ofSize ⟨65535, 65537, 1⟩
    let i : Invocation := ⟨(idleContext info).constants, ⟨0, 0, 0⟩, ⟨0, 1073741824⟩⟩
    initial.prepare 1 (idleProgram info) #[] ⟨1, 1, 1⟩ = (.ok [], idleContext info)
      ∧ idleCrew info = [i] ∧ 1073741823 ∈ i.subgroups.toList
      ∧ i.subgroupRange 1073741823 = .error (.arithmetic .add)
      ∧ Invocation.rangeOf info.workgroupSize 1073741823 = (4294967292, 4294967295)
      ∧ ¬ i.Completes := by
  intro info i
  have hprepare := prepare_idleContext info [] (by decide +kernel)
  have hparts : partsOf info = [⟨0, 1073741824⟩] := by decide
  have hcrew : idleCrew info = [i] := by
    rw [idleCrew_eq info [] ⟨1, 1, 1⟩ (by decide +kernel) (by decide +kernel), hparts,
      List.map_singleton]
  have hmem : 1073741823 ∈ i.subgroups.toList := List.mem_range'_1.mpr (by decide)
  have hrange : i.subgroupRange 1073741823 = .error (.arithmetic .add) := by
    decide +kernel
  refine ⟨hprepare, hcrew, hmem, hrange, by decide, ?_⟩
  intro hcompletes
  obtain ⟨range, hok⟩ := hcompletes.ranges _ hmem
  rw [hrange] at hok
  cases hok

end Context

end GridDispatch
