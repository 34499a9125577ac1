/-
The numbering of the whole grid.

An invocation has a position in its workgroup, and this and the workgroup give its position in the
grid, one axis at a time: the workgroups before it on the axis account for their whole sides
(`Coord.compose`). Taking the quotient and the remainder by the side undoes it, so positions in the
grid are in bijection with pairs of a workgroup and a position in it, and by `Numbering` with pairs
of a workgroup and a linear number.

A position in the grid is computed in lane arithmetic. A coordinate that fits the lane can be
computed, because what is added up to it fits as well, and one that does not fit faults
(`globalAxis_eq_ok_iff`). The last invocation of the last workgroup has the largest coordinates on
all three axes at once, one below the number of invocations on the axis. So all positions can be
computed exactly if on no axis there are more invocations than a lane has values
(`Coord.forall_compose_inside_iff`).
-/
import GridDispatch.Proofs.Lanes
import Mathlib.Data.Set.Function

set_option autoImplicit false

namespace GridDispatch

namespace Coord

/-! ## Workgroup and position -/

/-- The size of a grid of workgroups, in invocations. -/
def times (grid size : Coord) : Coord :=
  ⟨grid.x * size.x, grid.y * size.y, grid.z * size.z⟩

/-- The position in the grid of a position in a workgroup. -/
def compose (size workgroup position : Coord) : Coord :=
  ⟨workgroup.x * size.x + position.x, workgroup.y * size.y + position.y,
    workgroup.z * size.z + position.z⟩

/-- The workgroup of a position in the grid. -/
def workgroupOf (size c : Coord) : Coord :=
  ⟨c.x / size.x, c.y / size.y, c.z / size.z⟩

/-- The position in its workgroup of a position in the grid. -/
def positionIn (size c : Coord) : Coord :=
  ⟨c.x % size.x, c.y % size.y, c.z % size.z⟩

variable {size grid workgroup position c : Coord}

theorem mul_add_lt {count index side offset : Nat} (hindex : index < count)
    (hoffset : offset < side) : index * side + offset < count * side := by
  have hlt : offset + side * index < side * count := add_mul_lt hoffset hindex
  rw [Nat.mul_comm index, Nat.mul_comm count, Nat.add_comm]
  exact hlt

theorem mul_add_div {index side offset : Nat} (hoffset : offset < side) :
    (index * side + offset) / side = index := by
  rw [Nat.add_comm, Nat.add_mul_div_right _ _ (Nat.zero_lt_of_lt hoffset),
    Nat.div_eq_of_lt hoffset, Nat.zero_add]

theorem mul_add_mod {index side offset : Nat} (hoffset : offset < side) :
    (index * side + offset) % side = offset := by
  rw [Nat.add_comm, Nat.add_mul_mod_self_right, Nat.mod_eq_of_lt hoffset]

theorem inside_compose (hworkgroup : workgroup.inside grid) (hposition : position.inside size) :
    (compose size workgroup position).inside (grid.times size) := by
  obtain ⟨hwx, hwy, hwz⟩ := hworkgroup
  obtain ⟨hpx, hpy, hpz⟩ := hposition
  exact ⟨mul_add_lt hwx hpx, mul_add_lt hwy hpy, mul_add_lt hwz hpz⟩

theorem workgroupOf_compose (hposition : position.inside size) :
    workgroupOf size (compose size workgroup position) = workgroup := by
  obtain ⟨hx, hy, hz⟩ := hposition
  rw [workgroupOf, compose, mul_add_div hx, mul_add_div hy, mul_add_div hz]

theorem positionIn_compose (hposition : position.inside size) :
    positionIn size (compose size workgroup position) = position := by
  obtain ⟨hx, hy, hz⟩ := hposition
  rw [positionIn, compose, mul_add_mod hx, mul_add_mod hy, mul_add_mod hz]

theorem compose_of_parts (size c : Coord) :
    compose size (workgroupOf size c) (positionIn size c) = c := by
  rw [compose, workgroupOf, positionIn, Nat.div_add_mod', Nat.div_add_mod', Nat.div_add_mod']

/-- Every position in the grid is in one of the workgroups. -/
theorem inside_parts (hsize : 0 < size.volume) (hc : c.inside (grid.times size)) :
    (workgroupOf size c).inside grid ∧ (positionIn size c).inside size := by
  obtain ⟨hx, hy, hz⟩ := sides_pos_of_volume_pos hsize
  obtain ⟨hcx, hcy, hcz⟩ := hc
  have hdiv : ∀ {c count side : Nat}, c < count * side → c / side < count := by
    intro c count side hlt
    rw [Nat.mul_comm] at hlt
    exact Nat.div_lt_of_lt_mul hlt
  exact ⟨⟨hdiv hcx, hdiv hcy, hdiv hcz⟩, Nat.mod_lt _ hx, Nat.mod_lt _ hy, Nat.mod_lt _ hz⟩

/-- Composing is one to one, and reaches all positions of the grid. -/
theorem bijOn_compose (grid : Coord) (hsize : 0 < size.volume) :
    Set.BijOn (fun pair : Coord × Nat => compose size pair.1 (ofLinear size pair.2))
      {pair | pair.1.inside grid ∧ pair.2 < size.volume} {c | c.inside (grid.times size)} := by
  refine ⟨?_, ?_, ?_⟩
  · rintro ⟨workgroup, index⟩ ⟨hworkgroup, hindex⟩
    exact inside_compose hworkgroup (inside_ofLinear hindex)
  · rintro ⟨workgroup, index⟩ ⟨-, hindex⟩ ⟨workgroup', index'⟩ ⟨-, hindex'⟩ heq
    dsimp only at heq
    have hposition := inside_ofLinear hindex
    have hposition' := inside_ofLinear hindex'
    have hworkgroups := congrArg (workgroupOf size) heq
    rw [workgroupOf_compose hposition, workgroupOf_compose hposition'] at hworkgroups
    have hpositions := congrArg (positionIn size) heq
    rw [positionIn_compose hposition, positionIn_compose hposition'] at hpositions
    have hindices := congrArg size.linear hpositions
    rw [linear_ofLinear, linear_ofLinear] at hindices
    exact Prod.ext hworkgroups hindices
  · intro c hc
    obtain ⟨hworkgroup, hposition⟩ := inside_parts hsize hc
    refine ⟨(workgroupOf size c, size.linear (positionIn size c)),
      ⟨hworkgroup, linear_lt_volume hposition⟩, ?_⟩
    dsimp only
    rw [ofLinear_linear hposition, compose_of_parts]

/-! ## Within the lane -/

/-- The grid of all coordinates that fit the lane. -/
def laneGrid : Coord :=
  ⟨lane, lane, lane⟩

/-- The last coordinate on an axis is below a limit if there are no more than so many. -/
theorem last_lt_iff {count side limit : Nat} (hcount : 0 < count) (hside : 0 < side) :
    (count - 1) * side + (side - 1) < limit ↔ count * side ≤ limit := by
  have hlast : (count - 1) * side + side = count * side := by
    rw [← Nat.succ_mul, Nat.succ_eq_add_one, Nat.sub_add_cancel hcount]
  omega

/-- All positions of a grid fit the lane exactly if the last one does. -/
theorem forall_compose_inside_iff (hgrid : 0 < grid.x ∧ 0 < grid.y ∧ 0 < grid.z)
    (hsize : 0 < size.volume) :
    (∀ workgroup, workgroup.inside grid → ∀ index < size.volume,
        (compose size workgroup (ofLinear size index)).inside laneGrid)
      ↔ grid.x * size.x ≤ lane ∧ grid.y * size.y ≤ lane ∧ grid.z * size.z ≤ lane := by
  obtain ⟨hgx, hgy, hgz⟩ := hgrid
  obtain ⟨hsx, hsy, hsz⟩ := sides_pos_of_volume_pos hsize
  constructor
  -- the last invocation of the last workgroup has the largest coordinates
  · intro hall
    have hlast : (⟨size.x - 1, size.y - 1, size.z - 1⟩ : Coord).inside size :=
      ⟨Nat.sub_one_lt_of_lt hsx, Nat.sub_one_lt_of_lt hsy, Nat.sub_one_lt_of_lt hsz⟩
    have hfits := hall ⟨grid.x - 1, grid.y - 1, grid.z - 1⟩
      ⟨Nat.sub_one_lt_of_lt hgx, Nat.sub_one_lt_of_lt hgy, Nat.sub_one_lt_of_lt hgz⟩
      _ (linear_lt_volume hlast)
    rw [ofLinear_linear hlast] at hfits
    obtain ⟨hx, hy, hz⟩ := hfits
    exact ⟨(last_lt_iff hgx hsx).mp hx, (last_lt_iff hgy hsy).mp hy, (last_lt_iff hgz hsz).mp hz⟩
  · rintro ⟨hx, hy, hz⟩ workgroup hworkgroup index hindex
    obtain ⟨hcx, hcy, hcz⟩ := inside_compose hworkgroup (inside_ofLinear hindex)
    exact ⟨Nat.lt_of_lt_of_le hcx hx, Nat.lt_of_lt_of_le hcy hy, Nat.lt_of_lt_of_le hcz hz⟩

end Coord

namespace Invocation

/-! ## In lane arithmetic -/

/-- The position in the grid of the invocation with a linear number. -/
def globalPosition (i : Invocation) (index : Nat) : Except Fault Coord := do
  let position ← i.localId index
  i.globalId position

/-- A coordinate can be computed exactly if it fits the lane. -/
theorem globalAxis_eq_ok_iff {workgroup size position value : Nat} :
    globalAxis workgroup size position = .ok value
      ↔ workgroup * size + position < lane ∧ workgroup * size + position = value := by
  rw [globalAxis, Checked.bind_eq_ok_iff]
  constructor
  · rintro ⟨_, hmul, hadd⟩
    obtain ⟨-, rfl⟩ := Checked.mul_eq_ok_iff.mp hmul
    exact Checked.add_eq_ok_iff.mp hadd
  · intro h
    have hstart : workgroup * size < lane := Nat.lt_of_le_of_lt (Nat.le_add_right _ _) h.1
    exact ⟨_, Checked.mul_eq_ok hstart, Checked.add_eq_ok_iff.mpr h⟩

/-- So can a position, exactly if its three coordinates do. -/
theorem globalId_eq_ok_iff {i : Invocation} {size position c : Coord}
    (hsize : i.constants.workgroupSize.coord = size) :
    i.globalId position = .ok c ↔ (Coord.compose size i.workgroup position).inside .laneGrid
      ∧ Coord.compose size i.workgroup position = c := by
  subst hsize
  simp only [globalId, Checked.bind_eq_ok_iff, globalAxis_eq_ok_iff]
  constructor
  · rintro ⟨_, ⟨hx, rfl⟩, _, ⟨hy, rfl⟩, _, ⟨hz, rfl⟩, hc⟩
    exact ⟨⟨hx, hy, hz⟩, Except.ok.inj hc⟩
  · rintro ⟨⟨hx, hy, hz⟩, hc⟩
    exact ⟨_, ⟨hx, rfl⟩, _, ⟨hy, rfl⟩, _, ⟨hz, rfl⟩, congrArg Except.ok hc⟩

namespace HasSize

variable {i : Invocation} {size : Coord}

theorem globalPosition_eq_ok_iff (h : i.HasSize size) {index : Nat} {c : Coord} :
    i.globalPosition index = .ok c
      ↔ (Coord.compose size i.workgroup (.ofLinear size index)).inside .laneGrid
        ∧ Coord.compose size i.workgroup (.ofLinear size index) = c := by
  rw [globalPosition, h.localId_eq index]
  exact globalId_eq_ok_iff h.size_eq

/-- Decoding a linear number and numbering a position are inverse to each other. -/
theorem localId_inverse (h : i.HasSize size) :
    (∀ index < size.volume, ∃ c, i.localId index = .ok c ∧ c.inside size ∧ size.linear c = index)
    ∧ ∀ c : Coord, c.inside size → i.localId (size.linear c) = .ok c := by
  refine ⟨fun index hindex => ?_, fun c hc => ?_⟩
  · exact ⟨_, h.localId_eq index, Coord.inside_ofLinear hindex, Coord.linear_ofLinear size index⟩
  · rw [h.localId_eq, Coord.ofLinear_linear hc]

end HasSize

end Invocation

namespace Context

/-- **Positions in the grid are a bijection**, if they can be computed: every one of them belongs to
one invocation of one workgroup. They can be computed exactly if on no axis there are more
invocations than the lane has values. Positions in a workgroup can always be computed. -/
theorem globalPosition_of_prepare {ρ σ : Type} {before context : Context ρ σ} {threads : Nat}
    {program : Program ρ σ} {set : Bytes} {grid : Coord} {events : List Event}
    (hprepare : before.prepare threads program set grid = (.ok events, context))
    (hgrid : 0 < grid.x ∧ 0 < grid.y ∧ 0 < grid.z) (part : Coord → Nat → Subgroups) :
    let size := program.info.workgroupSize
    let invocation (workgroup : Coord) (index : Nat) : Invocation :=
      ⟨context.constants, workgroup, part workgroup index⟩
    let position (pair : Coord × Nat) : Except Fault Coord :=
      (invocation pair.1 pair.2).globalPosition pair.2
    ((∀ workgroup, workgroup.inside grid → ∀ index < size.volume,
        ∃ c, position (workgroup, index) = .ok c)
      ↔ grid.x * size.x ≤ lane ∧ grid.y * size.y ≤ lane ∧ grid.z * size.z ≤ lane)
    ∧ (grid.x * size.x ≤ lane ∧ grid.y * size.y ≤ lane ∧ grid.z * size.z ≤ lane →
        Set.BijOn position {pair | pair.1.inside grid ∧ pair.2 < size.volume}
          (Except.ok '' {c | c.inside (grid.times size)}))
    ∧ ∀ workgroup number,
        (∀ index < size.volume, ∃ c, (invocation workgroup number).localId index = .ok c
          ∧ c.inside size ∧ size.linear c = index)
        ∧ ∀ c : Coord, c.inside size →
            (invocation workgroup number).localId (size.linear c) = .ok c := by
  intro size invocation position
  have hprepared := prepared_of_prepare hprepare
  have hsize : 0 < size.volume := hprepared.invocations_pos
  have hinvocation : ∀ workgroup number, (invocation workgroup number).HasSize size :=
    fun workgroup number => hprepared.hasSize workgroup (part workgroup number)
  have hposition : ∀ pair c, position pair = .ok c
      ↔ (Coord.compose size pair.1 (.ofLinear size pair.2)).inside .laneGrid
        ∧ Coord.compose size pair.1 (.ofLinear size pair.2) = c :=
    fun pair c => (hinvocation pair.1 pair.2).globalPosition_eq_ok_iff
  have hfits := Coord.forall_compose_inside_iff hgrid hsize
  refine ⟨?_, ?_, fun workgroup number => (hinvocation workgroup number).localId_inverse⟩
  · rw [← hfits]
    simp only [hposition, exists_and_left, exists_eq', and_true]
  · intro hlane
    have hvalue : Set.EqOn (Except.ok ∘ fun pair : Coord × Nat =>
        Coord.compose size pair.1 (.ofLinear size pair.2)) position
        {pair | pair.1.inside grid ∧ pair.2 < size.volume} := by
      rintro ⟨workgroup, index⟩ ⟨hworkgroup, hindex⟩
      exact ((hposition _ _).mpr ⟨hfits.mpr hlane workgroup hworkgroup index hindex, rfl⟩).symm
    have hok : Set.InjOn (Except.ok : Coord → Except Fault Coord)
        {c | c.inside (grid.times size)} := fun _ _ _ _ heq => Except.ok.inj heq
    exact (hok.bijOn_image.comp (Coord.bijOn_compose grid hsize)).congr hvalue

/-- As many invocations on one axis as the lane has values. -/
theorem globalPosition_of_prepare_tight :
    let size : Coord := ⟨65536, 1, 1⟩
    let grid : Coord := ⟨65536, 1, 1⟩
    let context : Context Unit Unit :=
      (initial.prepare 1 (idleProgram (.ofSize size)) #[] grid).2
    let position (pair : Coord × Nat) : Except Fault Coord :=
      (⟨context.constants, pair.1, ⟨0, 16384⟩⟩ : Invocation).globalPosition pair.2
    (initial.prepare 1 (idleProgram (.ofSize size)) #[] grid = (.ok [], context)
      ∧ 0 < grid.x ∧ 0 < grid.y ∧ 0 < grid.z)
    ∧ (∀ workgroup, workgroup.inside grid → ∀ index < size.volume,
        ∃ c, position (workgroup, index) = .ok c)
    ∧ Set.BijOn position {pair | pair.1.inside grid ∧ pair.2 < size.volume}
        (Except.ok '' {c | c.inside (grid.times size)}) := by
  intro size grid context position
  have haccepted : (initial.prepare 1 (idleProgram (.ofSize size)) #[] grid).1 = .ok [] := by
    decide +kernel
  have hprepare : initial.prepare 1 (idleProgram (.ofSize size)) #[] grid = (.ok [], context) := by
    rw [← haccepted]
  have hgrid : 0 < grid.x ∧ 0 < grid.y ∧ 0 < grid.z := by decide
  have hlane : grid.x * size.x ≤ lane ∧ grid.y * size.y ≤ lane ∧ grid.z * size.z ≤ lane := by
    decide
  obtain ⟨hcomputed, hbijection, -⟩ :=
    globalPosition_of_prepare hprepare hgrid fun _ _ => ⟨0, 16384⟩
  exact ⟨⟨hprepare, hgrid⟩, hcomputed.mpr hlane, hbijection hlane⟩

end Context

end GridDispatch
