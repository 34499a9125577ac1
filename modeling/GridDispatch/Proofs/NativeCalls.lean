/-
The calls of `begin`.

A native program is handed coordinates and subgroups as signed 32-bit numbers, which a number of
2^31 or more would not survive. None comes to that: the sides of a grid are checked when a context
is prepared, coordinates are decoded to positions inside the grid, and a workgroup has at most 2^30
subgroups, as its invocations fit a lane. So whatever is planned for a share is passed on as it is
(`Prepared.mem_plan`, `signed_eq`).

That a dispatch makes no other calls is said twice. What it has begun is a piece of the plan. And
it does not notice if `begin` is replaced by one that answers the same to calls within these bounds
(`dispatch_withProgram`), so it cannot have made a call outside of them.
-/
import GridDispatch.Coroutine.Native
import GridDispatch.Proofs.Begun
import GridDispatch.Proofs.ContextHistory

set_option autoImplicit false

namespace GridDispatch

variable {ρ σ : Type}

/-! ## Programs that begin alike -/

namespace Run

variable {program other : Program ρ σ} {constants : Constants} {workgroup : Coord}

theorem spawn_congr (backend : Backend ρ σ) (run : Run ρ σ) {subgroups : Subgroups}
    (h : program.start constants workgroup subgroups = other.start constants workgroup subgroups) :
    run.spawn backend program constants workgroup subgroups
      = run.spawn backend other constants workgroup subgroups := by
  rw [spawn, spawn, h]

theorem spawnFrom_congr (backend : Backend ρ σ) {part : Nat → Subgroups} (count : Nat) :
    ∀ (run : Run ρ σ) (index : Nat),
      (∀ i, index ≤ i → i < index + count →
        program.start constants workgroup (part i) = other.start constants workgroup (part i)) →
      run.spawnFrom backend program constants workgroup part index count
        = run.spawnFrom backend other constants workgroup part index count := by
  induction count with
  | zero => exact fun _ _ _ => rfl
  | succ count ih =>
      intro run index h
      rw [spawnFrom, spawnFrom, spawn_congr backend run (h index (by omega) (by omega))]
      split
      · rfl
      · next after _ => exact ih after (index + 1) fun i hi hlt => h i (by omega) (by omega)

end Run

namespace Context

variable {context : Context ρ σ} {program other : Program ρ σ}

/-- The context with another program in place of its own. -/
def withProgram (context : Context ρ σ) (program : Program ρ σ) : Context ρ σ :=
  { context with program := some program }

/-- Two programs begin the coroutines of a workgroup alike. -/
def BeginsAlike (context : Context ρ σ) (program other : Program ρ σ) (workgroup : Coord) : Prop :=
  ∀ part ∈ context.coroutineParts, program.start context.constants workgroup part
    = other.start context.constants workgroup part

theorem runWorkgroup_congr (backend : Backend ρ σ) (stats : Stats) (run : Run ρ σ)
    {workgroup : Coord} (h : context.BeginsAlike program other workgroup) :
    context.runWorkgroup backend program stats run workgroup
      = (context.withProgram other).runWorkgroup backend other stats run workgroup := by
  have hspawn := Run.spawnFrom_congr backend context.coroutineCount run 0 fun i _ hi =>
    h (context.coroutinePart i) (List.mem_map_of_mem (List.mem_range.mpr (by omega)))
  rw [runWorkgroup, hspawn]
  rfl

theorem runFrom_congr (backend : Backend ρ σ) (thread count : Nat) :
    ∀ (stats : Stats) (run : Run ρ σ) (place : Nat),
      (∀ i, place ≤ i → i < place + count →
        context.BeginsAlike program other (context.shareAt thread i)) →
      context.runFrom backend program thread stats run place count
        = (context.withProgram other).runFrom backend other thread stats run place count := by
  induction count with
  | zero => exact fun _ _ _ _ => rfl
  | succ count ih =>
      intro stats run place h
      have hfirst : context.runWorkgroup backend program stats run (context.shareAt thread place)
          = (context.withProgram other).runWorkgroup backend other stats run
            ((context.withProgram other).shareAt thread place) :=
        runWorkgroup_congr backend stats run (h place (by omega) (by omega))
      rw [runFrom, runFrom, hfirst]
      split
      · rfl
      · next stats after _ =>
          exact ih stats after (place + 1) fun i hi hlt => h i (by omega) (by omega)

/-- A dispatch knows a program by what it begins for the plan. -/
theorem dispatch_withProgram (hprogram : context.program = some program) (backend : Backend ρ σ)
    {thread : Nat} (run : Run ρ σ) (h : ∀ start ∈ context.plan thread,
      program.start context.constants start.1 start.2
        = other.start context.constants start.1 start.2) :
    (context.withProgram other).dispatch backend thread run
      = context.dispatch backend thread run := by
  have hshare : ∀ i, 0 ≤ i → i < 0 + context.shareSize thread →
      context.BeginsAlike program other (context.shareAt thread i) := by
    intro i _ hi part hpart
    refine h (context.shareAt thread i, part)
      (List.mem_flatMap.mpr ⟨context.shareAt thread i, ?_, List.mem_map_of_mem hpart⟩)
    exact List.mem_map_of_mem (List.mem_range.mpr (by omega))
  rw [dispatch, dispatch, hprogram]
  dsimp only [withProgram]
  simp only [runFrom_congr backend thread _ _ _ _ hshare]
  rfl

/-! ## The plan -/

/-- What is planned for a prepared context lies inside the grid and inside the workgroup. -/
theorem Prepared.mem_plan {threads : Nat} {grid : Coord}
    (h : context.Prepared threads program grid) {thread : Nat} {start : Start}
    (hmem : start ∈ context.plan thread) : start.1.inside grid ∧ 1 ≤ start.2.count
      ∧ start.2.first + start.2.count ≤ context.constants.subgroupsPerWorkgroup := by
  obtain ⟨workgroup, hworkgroup, hstart⟩ := List.mem_flatMap.mp hmem
  obtain ⟨part, hpart, rfl⟩ := List.mem_map.mp hstart
  obtain ⟨index, hindex, rfl⟩ := List.mem_map.mp hpart
  obtain ⟨place, hplace⟩ := List.mem_iff_getElem?.mp hworkgroup
  refine ⟨((h.getElem?_workgroupsFor_iff thread place workgroup).mp hplace).1, ?_⟩
  have hcount : index < context.coroutineCount := List.mem_range.mp hindex
  rw [coroutineCount] at hcount
  rw [coroutinePart]
  by_cases hbarriers : context.hasBarriers = true
  · rw [if_pos hbarriers] at hcount ⊢
    exact ⟨Nat.le_refl 1, hcount⟩
  · -- there is an invocation, so there is a subgroup
    have hpos := h.invocations_pos
    rw [if_neg hbarriers]
    dsimp only
    rw [h.subgroups_eq, Nat.zero_add]
    change 1 ≤ (program.info.workgroupSize.volume + 4 - 1) / 4 ∧ _
    omega

end Context

/-! ## Signed arguments -/

/-- Small numbers are passed as they are. -/
theorem signed_eq {value : Nat} (h : value ≤ signedMax) : signed value = value :=
  if_pos (Nat.lt_succ_of_le h)

namespace BeginCall

/-- The arguments as plain numbers. -/
def plain (workgroup : Coord) (subgroups : Subgroups) : BeginCall :=
  ⟨workgroup.x, workgroup.y, workgroup.z, subgroups.first, subgroups.count⟩

/-- The workgroup lies inside the grid, and the subgroups are some of so many. -/
structure Within (call : BeginCall) (grid : Coord) (subgroups : Nat) : Prop where
  x : 0 ≤ call.x ∧ call.x < grid.x
  y : 0 ≤ call.y ∧ call.y < grid.y
  z : 0 ≤ call.z ∧ call.z < grid.z
  first_nonneg : 0 ≤ call.firstSubgroup
  count_pos : 1 ≤ call.subgroupCount
  stop_le : call.firstSubgroup + call.subgroupCount ≤ subgroups

end BeginCall

/-- What is planned is passed on exactly. -/
theorem Context.Prepared.beginCall_eq {context : Context ρ σ} {program : Program ρ σ}
    {threads : Nat} {grid : Coord} (h : context.Prepared threads program grid) {thread : Nat}
    {start : Start} (hmem : start ∈ context.plan thread) :
    BeginCall.of start.1 start.2 = .plain start.1 start.2
      ∧ (BeginCall.of start.1 start.2).Within grid context.constants.subgroupsPerWorkgroup := by
  obtain ⟨⟨hx, hy, hz⟩, hcount, hstop⟩ := h.mem_plan hmem
  obtain ⟨hsidex, hsidey, hsidez⟩ := h.side_le
  have hsubgroups := h.subgroups_le
  have hfits : maxSubgroups ≤ signedMax := by decide
  have hexact : BeginCall.of start.1 start.2 = .plain start.1 start.2 := by
    rw [BeginCall.of, signed_eq (by omega), signed_eq (by omega), signed_eq (by omega),
      signed_eq (by omega), signed_eq (by omega), BeginCall.plain]
  refine ⟨hexact, ?_⟩
  rw [hexact]
  constructor <;> simp only [BeginCall.plain] <;> omega

namespace NativeProgram

variable {φ : Type}

/-- **Native arguments arrive as they are.** Over every history in which a context was last
prepared for a native program, and in every dispatch on any thread, whatever state the thread is
in: the arguments of every coroutine that is begun are the coordinates and subgroups themselves,
inside the grid and inside the workgroup, which has at most 2^30 subgroups. And `begin` is called
with no others, since a program whose `begin` answers the same within these bounds cannot be told
from this one. -/
theorem beginCalls_exact (native : NativeProgram φ σ)
    (requests : List (Context.Request (NativeRoutine φ) σ)) {last : Preparation (NativeRoutine φ) σ}
    {earlier : List (Preparation (NativeRoutine φ) σ)}
    (hdone : (Ledger.performAll requests).done = last :: earlier)
    (hprogram : last.program = native.program) :
    let context := (Ledger.performAll requests).context
    context.constants.subgroupsPerWorkgroup ≤ 1073741824
    ∧ ∀ (backend : Backend (NativeRoutine φ) σ) (thread : Nat) (run : Run (NativeRoutine φ) σ),
      (∀ start ∈ (context.dispatch backend thread run).2.starts.drop run.starts.length,
        BeginCall.of start.1 start.2 = .plain start.1 start.2
        ∧ (BeginCall.of start.1 start.2).Within last.grid
          context.constants.subgroupsPerWorkgroup)
      ∧ ∀ other : NativeProgram φ σ,
        (∀ constants call scene, call.Within last.grid context.constants.subgroupsPerWorkgroup →
          other.entry.begin constants call scene = native.entry.begin constants call scene) →
        (context.withProgram other.program).dispatch backend thread run
          = context.dispatch backend thread run := by
  intro context
  have h : context.Prepared last.threads last.program last.grid :=
    ((Ledger.faithful_performAll requests).governed last earlier hdone).toPrepared
  refine ⟨h.subgroups_le, fun backend thread run => ⟨?_, fun other hother => ?_⟩⟩
  · intro start hmem
    obtain ⟨done, hpiece, hdone⟩ := (context.carriesOut_dispatch backend thread run).piece
    rw [hdone, List.drop_left] at hmem
    exact h.beginCall_eq (hpiece.subset hmem)
  · refine Context.dispatch_withProgram h.program_eq backend run fun start hmem => ?_
    rw [hprogram]
    funext scene
    have hcall := hother context.constants (.of start.1 start.2) scene (h.beginCall_eq hmem).2
    simp only [program, hcall]

/-- Entry points of coroutines with nothing to do. -/
def idleEntry : EntryPoints Unit Unit :=
  ⟨fun _ _ scene => ((), scene), fun _ scene => (0, (), scene), fun _ scene => scene⟩

/-- A program with two subgroups to a workgroup and a coroutine for each. -/
def paired : NativeProgram Unit Unit :=
  ⟨⟨0, true, 0, ⟨8, 1, 1⟩⟩, idleEntry⟩

/-- Four workgroups of it on three threads. -/
def pairedPreparation : Preparation (NativeRoutine Unit) Unit :=
  ⟨3, paired.program, #[], ⟨2, 2, 1⟩⟩

/-- The second thread runs one of the workgroups, and calls `begin` for both of its subgroups. -/
theorem beginCalls_exact_paired :
    let requests := [.setPushConstants #[7], .prepare pairedPreparation]
    let context := (Ledger.performAll requests).context
    ofRaw ⟨0, 1, 0, 8, 1, 1⟩ idleEntry = .ok paired
    ∧ (Ledger.performAll requests).done = [pairedPreparation]
    ∧ pairedPreparation.program = paired.program
    ∧ context.plan 1 = [(⟨1, 0, 0⟩, ⟨0, 1⟩), (⟨1, 0, 0⟩, ⟨1, 1⟩)]
    ∧ ∀ start ∈ (context.dispatch idleEntry.backend 1 ⟨.initial, (), #[]⟩).2.starts.drop 0,
        BeginCall.of start.1 start.2 = .plain start.1 start.2
          ∧ (BeginCall.of start.1 start.2).Within ⟨2, 2, 1⟩ 2 := by
  intro requests context
  have hdone : (Ledger.performAll requests).done = [pairedPreparation] := rfl
  refine ⟨rfl, hdone, rfl, by decide, ?_⟩
  exact ((beginCalls_exact paired requests hdone rfl).2 idleEntry.backend 1
    ⟨.initial, (), #[]⟩).1

end NativeProgram

end GridDispatch
