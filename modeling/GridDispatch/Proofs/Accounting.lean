/-
The work of all threads.

However many threads a grid is dealt out to, together they do the work of the grid. With paced
coroutines the work of one thread is known (`Paced.dispatch_eq`); here the threads are put side by
side. Each runs its share after some others, in any order, on a state they have left good
(`Crew.dispatchEach_eq`), and the sums are taken field by field (`Stats.sum_eq`).

That nothing depends on the number of threads is a fact about lists. The shares are a partition of
the grid, so the plans of the threads, one behind the other, are a permutation of the plan of the
grid (`Prepared.flatMap_plan_perm`), which is made from the program and the grid alone. What is
begun is therefore the same up to the order, and sums do not see the order.

`Context.work_accounted` says it for contexts with a history, for every order of the threads and for
any two numbers of them.
-/
import GridDispatch.Coroutine.Native
import GridDispatch.Proofs.ContextHistory
import GridDispatch.Proofs.Lanes
import GridDispatch.Proofs.Pacing
import Mathlib.Algebra.BigOperators.Ring.List
import Mathlib.Algebra.Order.BigOperators.Group.List
import Mathlib.Algebra.Order.Group.Nat

set_option autoImplicit false

namespace GridDispatch

variable {ρ σ : Type}

/-! ## Sums -/

namespace Stats

theorem addAll_eq (all : List Stats) : ∀ total : Stats,
    total.workgroups + (all.map workgroups).sum < word →
    total.coroutines + (all.map coroutines).sum < word →
    total.resumptions + (all.map resumptions).sum < word →
    addAll total all = .ok ⟨total.workgroups + (all.map workgroups).sum,
      total.coroutines + (all.map coroutines).sum,
      total.resumptions + (all.map resumptions).sum⟩ := by
  induction all with
  | nil => exact fun _ _ _ _ => rfl
  | cons more rest ih =>
      intro total hworkgroups hcoroutines hresumptions
      rw [List.map_cons, List.sum_cons, ← Nat.add_assoc] at hworkgroups hcoroutines hresumptions
      have hadd : total.add more = (.ok (), ⟨total.workgroups + more.workgroups,
          total.coroutines + more.coroutines, total.resumptions + more.resumptions⟩) := by
        rw [add, Checked.add_eq_ok (by omega)]
        dsimp only
        rw [Checked.add_eq_ok (by omega)]
        dsimp only
        rw [Checked.add_eq_ok (by omega)]
      rw [addAll, hadd]
      dsimp only
      rw [ih _ hworkgroups hcoroutines hresumptions]
      simp only [List.map_cons, List.sum_cons, Nat.add_assoc]

/-- Sums that stay counts are taken field by field. -/
theorem sum_eq {all : List Stats} (hworkgroups : (all.map workgroups).sum < word)
    (hcoroutines : (all.map coroutines).sum < word)
    (hresumptions : (all.map resumptions).sum < word) :
    sum all = .ok ⟨(all.map workgroups).sum, (all.map coroutines).sum,
      (all.map resumptions).sum⟩ := by
  rw [sum, addAll_eq all zero (by rwa [zero, Nat.zero_add]) (by rwa [zero, Nat.zero_add])
    (by rwa [zero, Nat.zero_add])]
  simp only [zero, Nat.zero_add]

end Stats

/-! ## The plan of a grid -/

/-- What is to be begun for a grid. -/
def gridPlan (info : ProgramInfo) (grid : Coord) : List Start :=
  grid.all.flatMap fun workgroup => (partsOf info).map fun part => (workgroup, part)

/-- The work of a grid. -/
def gridAccount (info : ProgramInfo) (grid : Coord) (waits : Coord → Subgroups → Nat) : Stats :=
  ⟨grid.volume, grid.volume * if info.hasBarriers then subgroupCount info.workgroupSize else 1,
    Context.turnsOf waits (gridPlan info grid)⟩

namespace Context

variable {context : Context ρ σ} {program : Program ρ σ} {backend : Backend ρ σ}
  {good : σ → Prop} {waits : Coord → Subgroups → Nat} {threads : Nat} {grid : Coord}

theorem Prepared.coroutineCount_eq (h : context.Prepared threads program grid) :
    context.coroutineCount
      = if program.info.hasBarriers then subgroupCount program.info.workgroupSize else 1 := by
  rw [coroutineCount, h.hasBarriers_eq, h.subgroups_eq]
  rfl

/-- The shares, one behind the other, are the grid in another order. -/
theorem Prepared.flatMap_workgroupsFor_perm (h : context.Prepared threads program grid) :
    ((List.range threads).flatMap context.workgroupsFor).Perm grid.all := by
  rw [List.perm_ext_iff_of_nodup h.nodup_flatMap_workgroupsFor grid.nodup_all]
  exact fun c => (h.mem_flatMap_workgroupsFor c).trans Coord.mem_all.symm

/-- And so are the plans. -/
theorem Prepared.flatMap_plan_perm (h : context.Prepared threads program grid) {order : List Nat}
    (horder : order.Perm (List.range threads)) :
    (order.flatMap context.plan).Perm (gridPlan program.info grid) := by
  have hplan : context.plan = fun thread => (context.workgroupsFor thread).flatMap fun workgroup =>
      (partsOf program.info).map fun part => (workgroup, part) := by
    funext thread
    rw [plan]
    refine List.flatMap_congr fun workgroup _ => ?_
    rw [planOf, h.coroutineParts_eq]
  rw [hplan, ← List.flatMap_assoc]
  exact ((horder.flatMap_right _).trans h.flatMap_workgroupsFor_perm).flatMap_right _

/-- A plan has a turn at least for every coroutine. -/
theorem length_le_turnsOf (waits : Coord → Subgroups → Nat) (starts : List Start) :
    starts.length ≤ turnsOf waits starts := by
  induction starts with
  | nil => exact Nat.zero_le _
  | cons start rest ih =>
      rw [turnsOf, List.map_cons, List.sum_cons, List.length_cons]
      rw [turnsOf] at ih
      omega

theorem length_gridPlan (info : ProgramInfo) (grid : Coord) :
    (gridPlan info grid).length
      = grid.volume * if info.hasBarriers then subgroupCount info.workgroupSize else 1 := by
  have hparts : (partsOf info).length
      = if info.hasBarriers then subgroupCount info.workgroupSize else 1 := by
    rw [partsOf]
    split
    · rw [List.length_map, List.length_range]
    · rfl
  have hall : grid.all.length = grid.volume := by
    rw [Coord.all, List.length_map, List.length_range]
  simp [gridPlan, List.length_flatMap, hparts, hall]

/-- The accounts of the shares add up to the account of the grid. -/
theorem Prepared.sum_account (h : context.Prepared threads program grid)
    (waits : Coord → Subgroups → Nat) :
    let accounts := (List.range threads).map (context.account waits)
    (⟨(accounts.map Stats.workgroups).sum, (accounts.map Stats.coroutines).sum,
      (accounts.map Stats.resumptions).sum⟩ : Stats) = gridAccount program.info grid waits := by
  have hworkgroups : ((List.range threads).map fun thread =>
      (context.workgroupsFor thread).length).sum = grid.volume := by
    rw [← List.length_flatMap, h.flatMap_workgroupsFor_perm.length_eq, Coord.all, List.length_map,
      List.length_range]
  have hresumptions : ((List.range threads).map fun thread =>
      turnsOf waits (context.plan thread)).sum = turnsOf waits (gridPlan program.info grid) := by
    rw [← turnsOf_flatMap]
    exact turnsOf_perm waits (h.flatMap_plan_perm (.refl _))
  simp only [List.map_map, gridAccount, ← hworkgroups, ← hresumptions, ← h.coroutineCount_eq,
    ← List.sum_map_mul_right]
  rfl

/-- So the sum that a dispatch over all threads forms is the account of the grid. -/
theorem Prepared.statsSum_eq (h : context.Prepared threads program grid)
    (hturns : turnsOf waits (gridPlan program.info grid) < word) :
    Stats.sum ((List.range threads).map (context.account waits))
      = .ok (gridAccount program.info grid waits) := by
  have hsum := h.sum_account waits
  dsimp only at hsum
  have hcoroutines := length_le_turnsOf waits (gridPlan program.info grid)
  rw [length_gridPlan] at hcoroutines
  rw [Stats.sum_eq, hsum]
  · exact (congrArg Stats.workgroups hsum).trans_lt h.workgroups_lt
  · exact (congrArg Stats.coroutines hsum).trans_lt (Nat.lt_of_le_of_lt hcoroutines hturns)
  · exact (congrArg Stats.resumptions hsum).trans_lt hturns

/-! ## All threads -/

/-- Entries of an array that are set one after another. -/
theorem getElem?_foldl_set {α : Type} (f : Nat → α) (order : List Nat) :
    ∀ (work : Array α) (i : Nat),
      (order.foldl (fun work index => work.setIfInBounds index (f index)) work)[i]?
        = if i ∈ order ∧ i < work.size then some (f i) else work[i]? := by
  induction order with
  | nil => intro work i; simp
  | cons first rest ih =>
      intro work i
      rw [List.foldl_cons, ih, Array.size_setIfInBounds, Array.getElem?_setIfInBounds]
      by_cases hfirst : first = i
      · by_cases hi : i < work.size <;> simp [hfirst, hi]
      · have hne : ¬ i = first := fun heq => hfirst heq.symm
        simp [hfirst, hne]

theorem size_foldl_set {α : Type} (f : Nat → α) (order : List Nat) : ∀ work : Array α,
    (order.foldl (fun work index => work.setIfInBounds index (f index)) work).size = work.size := by
  induction order with
  | nil => exact fun _ => rfl
  | cons first rest ih =>
      intro work
      rw [List.foldl_cons, ih, Array.size_setIfInBounds]

/-- The work of all threads, whatever the order in which it is noted. -/
theorem foldl_set_eq_map {α : Type} (f : Nat → α) (blank : α) {order : List Nat} {count : Nat}
    (horder : order.Perm (List.range count)) :
    (order.foldl (fun work index => work.setIfInBounds index (f index))
      (Array.replicate count blank)).toList = (List.range count).map f := by
  apply List.ext_getElem?
  intro i
  rw [Array.getElem?_toList, getElem?_foldl_set, Array.size_replicate]
  by_cases hi : i < count
  · have hmem : i ∈ order := horder.mem_iff.mpr (List.mem_range.mpr hi)
    simp [hmem, hi]
  · simp [hi]

/-- The coroutines begun so far on all threads, in order. -/
def Crew.starts (crew : Crew ρ σ) : List Start :=
  crew.events.toList.filterMap Event.start?

/-- So many threads, and what was left behind on them can be destroyed without harm. -/
structure Crew.Ready (crew : Crew ρ σ) (threads : Nat) (backend : Backend ρ σ)
    (good : σ → Prop) : Prop where
  size_eq : crew.threads.size = threads
  thread : ∀ thread ∈ crew.threads, thread.Ready backend good
  good : good crew.shared

/-- The shares that are run one after another are accounted for one by one. -/
theorem Paced.dispatchEach_eq (hpaced : context.Paced program backend good waits)
    (h : context.Prepared threads program grid) (hmemory : context.Allocatable)
    (order : List Nat) : ∀ (work : Array Stats) (crew : Crew ρ σ), order.Nodup →
      (∀ index ∈ order, index < threads ∧ turnsOf waits (context.plan index) < word
        ∧ ∃ thread, crew.threads[index]? = some thread ∧ thread.Ready backend good) →
      good crew.shared → ∃ after, context.dispatchEach backend work crew order
          = (.ok (order.foldl (fun work index =>
              work.setIfInBounds index (context.account waits index)) work), after)
        ∧ after.starts = crew.starts ++ order.flatMap context.plan := by
  induction order with
  | nil =>
      intro work crew _ _ _
      exact ⟨crew, rfl, (List.append_nil _).symm⟩
  | cons index rest ih =>
      intro work crew hnodup hready hgood
      obtain ⟨hout, hrest⟩ := List.nodup_cons.mp hnodup
      obtain ⟨⟨hindex, hturns, thread, hthread, hfirst⟩, hlater⟩ :=
        List.forall_mem_cons.mp hready
      obtain ⟨run, hrun, hstarts, hshared⟩ := hpaced.dispatch_eq h hmemory hindex
        ⟨thread, crew.shared, crew.events⟩ hfirst hgood hturns
      -- the other threads are as they were
      have hothers : ∀ other ∈ rest, other < threads ∧ turnsOf waits (context.plan other) < word
          ∧ ∃ thread', (crew.threads.setIfInBounds index run.thread)[other]? = some thread'
            ∧ thread'.Ready backend good := by
        intro other hmem
        have hne : index ≠ other := fun heq => hout (heq ▸ hmem)
        rw [Array.getElem?_setIfInBounds_ne hne]
        exact hlater other hmem
      obtain ⟨after, heach, hafter⟩ := ih
        (work.setIfInBounds index (context.account waits index))
        ⟨crew.threads.setIfInBounds index run.thread, run.shared, run.events⟩ hrest hothers hshared
      refine ⟨after, ?_, ?_⟩
      · rw [dispatchEach, hthread]
        dsimp only
        rw [hrun]
        exact heach
      · rw [hafter, List.flatMap_cons, ← List.append_assoc]
        exact congrArg (· ++ rest.flatMap context.plan) hstarts

/-- **A dispatch over all threads is accounted for**, in whatever order they run. -/
theorem Paced.dispatchIn_eq (hpaced : context.Paced program backend good waits)
    (h : context.Prepared threads program grid) (hmemory : context.Allocatable)
    {order : List Nat} (horder : order.Perm (List.range threads)) {crew : Crew ρ σ}
    (hready : crew.Ready threads backend good)
    (hturns : turnsOf waits (gridPlan program.info grid) < word) :
    ∃ after begun, context.dispatchIn backend order crew
        = (.ok (gridAccount program.info grid waits), after)
      ∧ after.starts = crew.starts ++ begun ∧ begun.Perm (gridPlan program.info grid) := by
  have hready' : ∀ index ∈ order, index < threads ∧ turnsOf waits (context.plan index) < word
      ∧ ∃ thread, crew.threads[index]? = some thread ∧ thread.Ready backend good := by
    intro index hmem
    have hindex : index < threads := List.mem_range.mp (horder.mem_iff.mp hmem)
    have hfound : index < crew.threads.size := hready.size_eq ▸ hindex
    -- the plan of a thread is part of the plan of the grid
    have hpart : turnsOf waits (context.plan index)
        ≤ turnsOf waits (gridPlan program.info grid) := by
      rw [← turnsOf_perm waits (h.flatMap_plan_perm horder), turnsOf_flatMap]
      exact List.le_sum_of_mem (List.mem_map_of_mem hmem)
    exact ⟨hindex, Nat.lt_of_le_of_lt hpart hturns, crew.threads[index],
      Array.getElem?_eq_getElem hfound, hready.thread _ (Array.getElem_mem hfound)⟩
  obtain ⟨after, heach, hafter⟩ := hpaced.dispatchEach_eq h hmemory order
    (Array.replicate threads .zero) crew (horder.nodup_iff.mpr List.nodup_range) hready'
    hready.good
  refine ⟨⟨after.threads, after.shared, after.events.push
    (.dispatchDone threads (gridAccount program.info grid waits))⟩, order.flatMap context.plan, ?_,
    ?_, h.flatMap_plan_perm horder⟩
  · have hprogram : context.program.isNone = false := by rw [h.program_eq]; rfl
    rw [dispatchIn, hprogram, h.threads_eq, heach]
    simp only [hready.size_eq, ne_eq, not_true_eq_false, if_false, Bool.false_eq_true,
      foldl_set_eq_map _ _ horder, h.statsSum_eq hturns]
  · rw [← hafter, Crew.starts, Array.toList_push, List.filterMap_append, Crew.starts]
    exact List.append_nil _

/-! ## Contexts with a history -/

/-- The context was last prepared so, its memory can be had, and the program is paced. -/
structure Accountable (context : Context ρ σ) (p : Preparation ρ σ) (backend : Backend ρ σ)
    (good : σ → Prop) (waits : Coord → Subgroups → Nat) : Prop where
  prepared : ∃ requests earlier, Ledger.performAll requests = ⟨context, p :: earlier⟩
  allocatable : context.Allocatable
  paced : context.Paced p.program backend good waits

theorem Accountable.toPrepared {p : Preparation ρ σ}
    (h : context.Accountable p backend good waits) :
    context.Prepared p.threads p.program p.grid := by
  obtain ⟨requests, earlier, heq⟩ := h.prepared
  have hfaithful := Ledger.faithful_performAll requests
  rw [heq] at hfaithful
  exact (hfaithful.governed p earlier rfl).toPrepared

theorem Accountable.dispatchIn_eq {p : Preparation ρ σ}
    (h : context.Accountable p backend good waits) {order : List Nat}
    (horder : order.Perm (List.range p.threads)) {crew : Crew ρ σ}
    (hready : crew.Ready p.threads backend good)
    (hturns : turnsOf waits (gridPlan p.program.info p.grid) < word) :
    (context.dispatchIn backend order crew).1 = .ok (gridAccount p.program.info p.grid waits)
    ∧ ((context.dispatchIn backend order crew).2.starts.drop crew.starts.length).Perm
        (gridPlan p.program.info p.grid) := by
  obtain ⟨after, begun, heq, hstarts, hperm⟩ :=
    h.paced.dispatchIn_eq h.toPrepared h.allocatable horder hready hturns
  rw [heq]
  refine ⟨rfl, ?_⟩
  rw [hstarts, List.drop_left]
  exact hperm

/-- A dispatch over all threads runs them in ascending order. -/
theorem Accountable.dispatchAll_eq {p : Preparation ρ σ}
    (h : context.Accountable p backend good waits) {crew : Crew ρ σ}
    (hready : crew.Ready p.threads backend good)
    (hturns : turnsOf waits (gridPlan p.program.info p.grid) < word) :
    (context.dispatchAll backend crew).1 = .ok (gridAccount p.program.info p.grid waits)
    ∧ ((context.dispatchAll backend crew).2.starts.drop crew.starts.length).Perm
        (gridPlan p.program.info p.grid) := by
  rw [dispatchAll, h.toPrepared.threads_eq]
  exact h.dispatchIn_eq (.refl _) hready hturns

/-- **The work of a dispatch, for any number of threads.** If the coroutine of some subgroups of a
workgroup waits a number of times that these determine, then a dispatch on a thread runs the
workgroups of its share, begins what is planned for them, and resumes every coroutine once more than
it waits. A dispatch over all threads, in any order, answers the sum, which is the work of the grid,
and begins the plan of the grid in some order. So the number of threads makes no difference. -/
theorem work_accounted {p : Preparation ρ σ} (h : context.Accountable p backend good waits) :
    (∀ thread < p.threads, ∀ run : Run ρ σ, run.thread.Ready backend good → good run.shared →
      turnsOf waits (context.plan thread) < word →
        (context.dispatch backend thread run).1 = .ok ⟨(context.workgroupsFor thread).length,
          (context.workgroupsFor thread).length
            * (if p.program.info.hasBarriers then context.constants.subgroupsPerWorkgroup else 1),
          turnsOf waits (context.plan thread)⟩
        ∧ (context.dispatch backend thread run).2.starts = run.starts ++ context.plan thread)
    ∧ (turnsOf waits (gridPlan p.program.info p.grid) < word →
      Stats.sum ((List.range p.threads).map (context.account waits))
          = .ok (gridAccount p.program.info p.grid waits)
      ∧ (∀ order : List Nat, order.Perm (List.range p.threads) → ∀ crew : Crew ρ σ,
        crew.Ready p.threads backend good →
          (context.dispatchIn backend order crew).1 = .ok (gridAccount p.program.info p.grid waits)
          ∧ ((context.dispatchIn backend order crew).2.starts.drop crew.starts.length).Perm
              (gridPlan p.program.info p.grid))
      ∧ ∀ (other : Context ρ σ) (p' : Preparation ρ σ), other.Accountable p' backend good waits →
        p'.program = p.program → p'.grid = p.grid → ∀ crew crew' : Crew ρ σ,
          crew.Ready p.threads backend good → crew'.Ready p'.threads backend good →
            (other.dispatchAll backend crew').1 = (context.dispatchAll backend crew).1
            ∧ ((other.dispatchAll backend crew').2.starts.drop crew'.starts.length).Perm
                ((context.dispatchAll backend crew).2.starts.drop crew.starts.length)) := by
  have hprepared := h.toPrepared
  refine ⟨fun thread hthread run hready hgood hturns => ?_, fun hturns => ⟨?_, ?_, ?_⟩⟩
  · obtain ⟨after, heq, hstarts, -⟩ :=
      h.paced.dispatch_eq hprepared h.allocatable hthread run hready hgood hturns
    rw [heq, account, coroutineCount, hprepared.hasBarriers_eq]
    exact ⟨rfl, hstarts⟩
  · exact hprepared.statsSum_eq hturns
  · intro order horder crew hready
    exact h.dispatchIn_eq horder hready hturns
  · intro other p' hother hprogram hgrid crew crew' hready hready'
    obtain ⟨hanswer, hbegun⟩ := h.dispatchAll_eq hready hturns
    rw [← hprogram, ← hgrid] at hturns
    obtain ⟨hanswer', hbegun'⟩ := hother.dispatchAll_eq hready' hturns
    rw [hprogram, hgrid] at hanswer' hbegun'
    exact ⟨hanswer'.trans hanswer.symm, hbegun'.trans hbegun.symm⟩

end Context

/-! ## Frames that count down -/

/-- Entry points of coroutines whose frame is the number of times they will still wait. -/
def countdownEntry : EntryPoints Nat Unit where
  begin _ call scene := ((call.x + call.firstSubgroup).toNat % 3, scene)
  await
    | 0, scene => (0, 0, scene)
    | left + 1, scene => (1, left, scene)
  destroy _ scene := scene

/-- A program of them, with two subgroups to a workgroup and a coroutine for each. -/
def countdownProgram : NativeProgram Nat Unit :=
  ⟨⟨20, true, 0, ⟨8, 1, 1⟩⟩, countdownEntry⟩

/-- Three workgroups of it. -/
def countdownPreparation (threads : Nat) : Preparation (NativeRoutine Nat) Unit :=
  ⟨threads, countdownProgram.program, #[], ⟨3, 1, 1⟩⟩

def countdownContext (threads : Nat) : Context (NativeRoutine Nat) Unit :=
  (Ledger.performAll [.prepare (countdownPreparation threads)]).context

/-- How often they wait. -/
def countdownWaits (workgroup : Coord) (subgroups : Subgroups) : Nat :=
  (signed workgroup.x + signed subgroups.first).toNat % 3

theorem paces_countdown (size : Nat) (waits : Nat) :
    countdownEntry.backend.Paces (fun scene : Scene Unit => size ≤ scene.memory.size ∧ True) waits
      ⟨waits, false⟩ := by
  have hkeep : ∀ scene after : Scene Unit, size ≤ scene.memory.size ∧ True →
      size ≤ (scene.keep after).memory.size ∧ True := by
    rintro scene after ⟨hsize, -⟩
    refine ⟨?_, trivial⟩
    rw [Scene.keep, Bytes.size_fit]
    exact hsize
  induction waits with
  | zero => exact fun scene hscene => ⟨rfl, hkeep _ _ (hkeep _ _ hscene)⟩
  | succ waits ih => exact fun scene hscene => ⟨rfl, hkeep _ _ hscene, ih⟩

theorem accountable_countdown (threads : Nat)
    (hdone : (Ledger.performAll [.prepare (countdownPreparation threads)]).done
      = [countdownPreparation threads])
    (hmemory : (countdownContext threads).memorySize = 20) :
    (countdownContext threads).Accountable (countdownPreparation threads) countdownEntry.backend
      (fun _ => True) countdownWaits := by
  refine ⟨⟨[.prepare (countdownPreparation threads)], [], ?_⟩, ⟨32, ⟨Bytes.zeros 32, 16⟩, ?_, rfl⟩,
    fun workgroup _ part _ scene hscene => ?_⟩
  · rw [← hdone]
    rfl
  · rw [hmemory]
    rfl
  · have hpaces := paces_countdown (countdownContext threads).memorySize
      (countdownWaits workgroup part)
    refine ⟨_, rfl, ⟨?_, trivial⟩, hpaces⟩
    rw [Scene.keep, Bytes.size_fit]
    exact hscene.1

theorem ready_initial (threads : Nat) (backend : Backend ρ σ) (shared : σ) :
    Context.Crew.Ready ⟨Array.replicate threads .initial, shared, #[]⟩ threads backend
      fun _ => True := by
  refine ⟨Array.size_replicate, fun thread hmem => ?_, trivial⟩
  rw [(Array.mem_replicate.mp hmem).2]
  exact ⟨⟨shared, [], rfl⟩, fun _ _ _ _ => trivial⟩

/-- The same work on one thread and on two. -/
theorem Context.work_accounted_countdown :
    let one : Crew (NativeRoutine Nat) Unit := ⟨Array.replicate 1 .initial, (), #[]⟩
    let two : Crew (NativeRoutine Nat) Unit := ⟨Array.replicate 2 .initial, (), #[]⟩
    ((countdownContext 1).Accountable (countdownPreparation 1) countdownEntry.backend
        (fun _ => True) countdownWaits
      ∧ turnsOf countdownWaits (gridPlan countdownProgram.info ⟨3, 1, 1⟩) < word)
    ∧ ((countdownContext 2).Accountable (countdownPreparation 2) countdownEntry.backend
        (fun _ => True) countdownWaits
      ∧ one.Ready 1 countdownEntry.backend (fun _ => True)
      ∧ two.Ready 2 countdownEntry.backend fun _ => True)
    ∧ ((countdownContext 1).dispatchIn countdownEntry.backend [0] one).1 = .ok ⟨3, 6, 12⟩
    ∧ ((countdownContext 2).dispatchAll countdownEntry.backend two).1
        = ((countdownContext 1).dispatchAll countdownEntry.backend one).1 := by
  intro one two
  have hone := accountable_countdown 1 rfl rfl
  have htwo := accountable_countdown 2 rfl rfl
  have hturns : turnsOf countdownWaits (gridPlan countdownProgram.info ⟨3, 1, 1⟩) < word := by
    decide
  have hready : one.Ready 1 countdownEntry.backend fun _ => True := ready_initial 1 _ ()
  have hready' : two.Ready 2 countdownEntry.backend fun _ => True := ready_initial 2 _ ()
  obtain ⟨-, horder, hother⟩ := (work_accounted hone).2 hturns
  refine ⟨⟨hone, hturns⟩, ⟨htwo, hready, hready'⟩, ?_, ?_⟩
  · exact (horder [0] (.refl _) one hready).1
  · exact (hother _ _ htwo rfl rfl one two hready hready').1

end GridDispatch
