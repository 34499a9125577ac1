/-
Coroutines that keep a pace.

How often a coroutine waits may depend on what it sees. Here it does not: the coroutine that a
program begins for some subgroups of a workgroup waits a number of times that these determine,
whatever good state the things are in that coroutines share (`Backend.Paces`, `Context.Paced`). The
work of a dispatch is then known before it is done. One dispatch is accounted for in this file
(`Paced.dispatch_eq`), and all threads together in `Accounting`.

The loops were followed in `ShareSchedule`, where the waits come out of the run. Keeping a pace is
one way to be reliable (`Paced.reliable`), and the waits that come out are the right ones, as the
coroutines leave no choice. What is added here is arithmetic: the turns of a schedule, summed
along the plan of the share.

Before its share a thread destroys what an earlier dispatch has left behind. This, too, must leave
the shared state good, and it makes the memory as long as the program has asked for; so coroutines
may count on both (`Context.Fine`).
-/
import GridDispatch.Proofs.Begun
import GridDispatch.Proofs.Rounding
import GridDispatch.Proofs.ShareSchedule

set_option autoImplicit false

namespace GridDispatch

variable {ρ σ : Type}

/-! ## Pace -/

/-- The coroutine waits so many times and then ends, and in between and when it is destroyed the
scenes stay fine. -/
def Backend.Paces (backend : Backend ρ σ) (fine : Scene σ → Prop) : Nat → ρ → Prop
  | 0, state => ∀ scene, fine scene →
    let resumed := backend.resume state scene
    let kept := scene.keep resumed.scene
    resumed.answer = .ok .ended ∧ fine (kept.keep (backend.destroy resumed.state kept))
  | waits + 1, state => ∀ scene, fine scene →
    let resumed := backend.resume state scene
    resumed.answer = .ok .waiting ∧ fine (scene.keep resumed.scene)
      ∧ backend.Paces fine waits resumed.state

namespace Backend.Paces

variable {backend : Backend ρ σ} {fine : Scene σ → Prop} {waits : Nat}

theorem waits_of {state : ρ} (h : backend.Paces fine waits state) :
    backend.Waits fine waits state := by
  induction waits generalizing state with
  | zero => exact fun scene hscene => (h scene hscene).1
  | succ waits ih =>
      intro scene hscene
      obtain ⟨hanswer, -, hnext⟩ := h scene hscene
      exact ⟨hanswer, ih hnext⟩

/-- What keeps a pace is reliable. -/
theorem reliable (backend : Backend ρ σ) (fine : Scene σ → Prop) :
    backend.Reliable fine fun state => ∃ waits, backend.Paces fine waits state := by
  refine ⟨?_⟩
  rintro state scene ⟨waits, h⟩ hscene
  cases waits with
  | zero => exact .inr (h scene hscene)
  | succ waits =>
      obtain ⟨hanswer, hkept, hnext⟩ := h scene hscene
      exact .inl ⟨hanswer, ⟨waits, hnext⟩, hkept⟩

end Backend.Paces

namespace Context

variable {context : Context ρ σ} {program : Program ρ σ} {backend : Backend ρ σ}
  {good : σ → Prop} {waits : Coord → Subgroups → Nat}

/-- The memory is as long as the context asks for, and what is shared is good. -/
def Fine (context : Context ρ σ) (good : σ → Prop) (scene : Scene σ) : Prop :=
  context.memorySize ≤ scene.memory.size ∧ good scene.shared

/-- Inside the grid the program begins coroutines without a fault, and the one of some subgroups of
a workgroup waits so many times. -/
def Paced (context : Context ρ σ) (program : Program ρ σ) (backend : Backend ρ σ)
    (good : σ → Prop) (waits : Coord → Subgroups → Nat) : Prop :=
  ∀ workgroup, workgroup.inside context.grid → ∀ part ∈ context.coroutineParts, ∀ scene,
    context.Fine good scene → ∃ state,
      (program.start context.constants workgroup part scene).1 = .ok state
      ∧ context.Fine good (scene.keep (program.start context.constants workgroup part scene).2)
      ∧ backend.Paces (context.Fine good) (waits workgroup part) state

theorem Paced.reliable (h : context.Paced program backend good waits) :
    program.Reliable backend context.constants context.Due (context.Fine good)
      fun state => ∃ waits, backend.Paces (context.Fine good) waits state := by
  refine ⟨Backend.Paces.reliable backend _, fun workgroup part scene hdue hscene => ?_⟩
  obtain ⟨state, hstart, hkept, hpaces⟩ := h workgroup hdue.1 part hdue.2 scene hscene
  exact ⟨state, hstart, ⟨_, hpaces⟩, hkept⟩

/-- A paced program leaves no choice of the waits. -/
theorem Paced.waits_of (h : context.Paced program backend good waits) {workgroup : Coord}
    {part : Subgroups} (hdue : context.Due workgroup part) :
    program.Waits backend context.constants (context.Fine good) workgroup part
      (waits workgroup part) := by
  intro scene state hscene hstart
  obtain ⟨state', hstart', -, hpaces⟩ := h workgroup hdue.1 part hdue.2 scene hscene
  obtain rfl : state = state' := Except.ok.inj (hstart.symm.trans hstart')
  exact hpaces.waits_of

/-! ## Turns -/

/-- The number of turns that all of them take: everyone has one more than it waits. -/
def turnsOf (waits : Coord → Subgroups → Nat) (starts : List Start) : Nat :=
  (starts.map fun start => waits start.1 start.2 + 1).sum

theorem turnsOf_append (waits : Coord → Subgroups → Nat) (starts more : List Start) :
    turnsOf waits (starts ++ more) = turnsOf waits starts + turnsOf waits more := by
  simp [turnsOf]

theorem turnsOf_flatMap {α : Type} (waits : Coord → Subgroups → Nat) (plan : α → List Start)
    (list : List α) : turnsOf waits (list.flatMap plan)
      = (list.map fun a => turnsOf waits (plan a)).sum := by
  induction list with
  | nil => rfl
  | cons first rest ih => rw [List.flatMap_cons, turnsOf_append, ih, List.map_cons, List.sum_cons]

theorem turnsOf_perm (waits : Coord → Subgroups → Nat) {starts other : List Start}
    (h : starts.Perm other) : turnsOf waits starts = turnsOf waits other :=
  (h.map _).sum_eq

/-- The turns of a workgroup, from the waits that came out of a run. -/
theorem work_lineup (context : Context ρ σ) (begun : Nat) (workgroup : Coord) {found : Nat → Nat}
    (h : ∀ i < context.coroutineCount, found i = waits workgroup (context.coroutinePart i)) :
    (context.lineup begun workgroup found).work = turnsOf waits (context.planOf workgroup) := by
  rw [lineup, Lineup.work_eq_sum, planOf, coroutineParts, turnsOf, List.map_map, List.map_map,
    List.map_map]
  refine congrArg List.sum (List.map_congr_left fun i hi => ?_)
  exact congrArg (· + 1) (h i (List.mem_range.mp hi))

/-- The turns of a share. -/
theorem workFrom_eq (context : Context ρ σ) (thread begun : Nat) {found : Nat → Nat → Nat}
    (count : Nat) : ∀ place : Nat,
      (∀ p, place ≤ p → p < place + count → ∀ i < context.coroutineCount,
        found p i = waits (context.shareAt thread p) (context.coroutinePart i)) →
      context.workFrom thread begun found place count
        = turnsOf waits ((List.range' place count).flatMap fun p =>
            context.planOf (context.shareAt thread p)) := by
  induction count with
  | zero => exact fun _ _ => rfl
  | succ count ih =>
      intro place h
      have hplace := context.work_lineup (begun + place * context.coroutineCount) _
        (h place (Nat.le_refl _) (by omega))
      have hrest := ih (place + 1) fun p hle hlt => h p (by omega) (by omega)
      rw [workFrom_succ, lineupAt, hplace, hrest, List.range'_succ, List.flatMap_cons,
        turnsOf_append]

/-! ## One dispatch -/

end Context

/-- A block that was allocated has the length that was asked for. -/
theorem Block.size_of_allocate {length align : Nat} {block : Block}
    (h : allocate length align = .ok block) : block.size = length := by
  rw [allocate] at h
  split at h
  · next hzero =>
      rw [empty] at h
      split at h
      · cases h
        exact hzero.symm
      · cases h
  · split at h
    · cases h
      exact Bytes.size_zeros length
    · cases h

/-- Memory that was reserved is as long as was asked for. -/
theorem Run.le_size_of_reserveMemory {run after : Run ρ σ} {size : Nat}
    (h : run.reserveMemory size = (.ok (), after)) : size ≤ after.thread.memory.size := by
  rw [reserveMemory] at h
  split at h
  · cases h
  · next length hrounded =>
      obtain ⟨-, -, rfl⟩ := alignUp_eq_ok_iff.mp hrounded
      have hround : size ≤ roundUp size memoryAlign := le_roundUp (by decide) size
      rw [Block.reserve] at h
      by_cases hfits : roundUp size memoryAlign ≤ run.thread.memory.size
      · rw [if_pos hfits] at h
        cases h
        exact Nat.le_trans hround hfits
      · rw [if_neg hfits] at h
        cases hgrown : Block.allocate (roundUp size memoryAlign) run.thread.memory.align with
        | error fault =>
            rw [hgrown] at h
            cases h
        | ok grown =>
            rw [hgrown] at h
            cases h
            exact Nat.le_trans hround (Nat.le_of_eq (Block.size_of_allocate hgrown).symm)

/-- What was left behind on the thread can be destroyed without harm. -/
structure Thread.Ready (thread : Thread ρ) (backend : Backend ρ σ) (good : σ → Prop) : Prop where
  reachable : thread.Reachable backend
  destroy : ∀ coroutine ∈ thread.queue.toList, ∀ scene : Scene σ, good scene.shared →
    good (backend.destroy coroutine.state scene).shared

/-- Destroying harmless coroutines leaves what is shared good. -/
theorem View.good_foldl_destroy {backend : Backend ρ σ} {good : σ → Prop}
    (list : List (Coroutine ρ)) : ∀ {view : View ρ σ}, good view.scene.shared →
      (∀ coroutine ∈ list, ∀ scene : Scene σ, good scene.shared →
        good (backend.destroy coroutine.state scene).shared) →
      good (list.foldl (View.destroy backend) view).scene.shared := by
  induction list with
  | nil => exact fun h _ => h
  | cons coroutine rest ih =>
      intro view hgood hlist
      obtain ⟨hfirst, hrest⟩ := List.forall_mem_cons.mp hlist
      exact ih (hfirst view.scene hgood) hrest

namespace Context

variable {context : Context ρ σ} {program : Program ρ σ} {backend : Backend ρ σ}
  {good : σ → Prop} {waits : Coord → Subgroups → Nat} {threads thread : Nat} {grid : Coord}

/-- The work of a share. -/
def account (context : Context ρ σ) (waits : Coord → Subgroups → Nat) (thread : Nat) : Stats :=
  ⟨(context.workgroupsFor thread).length,
    (context.workgroupsFor thread).length * context.coroutineCount,
    turnsOf waits (context.plan thread)⟩

/-- A dispatch that gets its memory discards what was left behind. Its share begins with an empty
queue and in a fine scene. -/
theorem Prepared.dispatch_of_memory (h : context.Prepared threads program grid)
    (hmemory : memoryFault context.memorySize = none) (hthread : thread < threads) (run : Run ρ σ)
    (hready : run.thread.Ready backend good) (hgood : good run.shared) :
    ∃ ready scene, ready.Shows
        ⟨[], scene, run.thread.begun, run.history ++ run.queued.map .destroyed⟩
      ∧ context.Fine good scene
      ∧ context.dispatch backend thread run
        = match context.runFrom backend program thread .zero ready 0 (context.shareSize thread) with
          | (.error fault, run) => (.error (.faulted fault), run)
          | (.ok stats, run) =>
            (.ok stats, run.record (.shareDone thread context.threads stats)) := by
  obtain ⟨queue, hshows, -, -⟩ := hready.reachable.shows
  obtain ⟨ready, bytes, hreserve, hshowsReady, heq⟩ := hshows.dispatch_of_memory backend
    h.program_eq (h.threads_eq ▸ hthread) hmemory
  have hlong := Run.le_size_of_reserveMemory hreserve
  have hbytes : ready.thread.memory.bytes = bytes :=
    congrArg Scene.memory hshowsReady.scene
  have hfine : context.Fine good
      ⟨bytes, (View.discard backend ⟨queue, run.scene, run.thread.begun, run.history⟩).scene.shared⟩
      := by
    refine ⟨hbytes ▸ hlong, View.good_foldl_destroy queue hgood fun coroutine hmem => ?_⟩
    exact hready.destroy coroutine (hshows.queue.toList_eq ▸ hmem)
  dsimp only at hshowsReady
  rw [View.queue_discard, View.begun_discard, hshows.history_discard backend] at hshowsReady
  exact ⟨ready, _, hshowsReady, hfine, heq⟩

/-- **One dispatch is accounted for.** It begins what is planned for its share, and answers with
the numbers of workgroups, of coroutines and of their turns. -/
theorem Paced.dispatch_eq (hpaced : context.Paced program backend good waits)
    (h : context.Prepared threads program grid) (hmemory : context.Allocatable)
    (hthread : thread < threads) (run : Run ρ σ) (hready : run.thread.Ready backend good)
    (hgood : good run.shared) (hturns : turnsOf waits (context.plan thread) < word) :
    ∃ after, context.dispatch backend thread run = (.ok (context.account waits thread), after)
      ∧ after.starts = run.starts ++ context.plan thread ∧ good after.shared := by
  obtain ⟨ready, scene, hshowsReady, hfine, heq⟩ :=
    h.dispatch_of_memory hmemory.memoryFault_eq hthread run hready hgood
  have hcount : Stats.zero.workgroups + context.shareSize thread < word := by
    rw [Stats.zero, Nat.zero_add]
    exact Nat.lt_of_le_of_lt (context.shareSize_le thread)
      (h.workgroups_eq ▸ h.workgroups_lt)
  obtain ⟨found, hrespects, hanswer, -, hsettled⟩ := Run.Shows.runFrom_lands hpaced.reliable
    h.coroutineCount_le thread run.thread.begun (context.shareSize thread) 0 .zero
    (by rwa [Nat.zero_mul, Nat.add_zero]) hfine
    (fun p _ hp i hi => h.due (by omega) hi) hcount (show 0 < word by decide)
  have hwork : context.workFrom thread run.thread.begun found 0 (context.shareSize thread)
      = turnsOf waits (context.plan thread) := by
    rw [plan_eq]
    refine context.workFrom_eq thread run.thread.begun _ 0 fun p hle hlt i hi => ?_
    exact hrespects p hle hlt i hi _ (hpaced.waits_of (h.due (by omega) hi))
  -- all turns can be counted, so that the course of the share is its schedule
  rw [context.share_eq_schedule _ _ _ (hwork ▸ hturns)] at hanswer hsettled
  obtain ⟨scene, hscene, hlast⟩ := hsettled _ rfl
  rcases hshare : context.runFrom backend program thread .zero ready 0 (context.shareSize thread)
    with ⟨answer, last⟩
  rw [hshare] at hanswer hlast
  dsimp only at hanswer hlast
  rw [hanswer, hwork, ← length_workgroupsFor] at hshare
  have hdispatch : context.dispatch backend thread run
      = (.ok (context.account waits thread),
        last.record (.shareDone thread context.threads (context.account waits thread))) := by
    rw [heq, ← length_workgroupsFor, hshare]
    rfl
  have hbegun := (context.carriesOut_dispatch backend thread run).whole
    (context.account waits thread) (by rw [hdispatch])
  rw [hdispatch] at hbegun
  refine ⟨_, hdispatch, hbegun, ?_⟩
  have hshared : last.shared = scene.shared := congrArg Scene.shared hlast.scene
  change good last.shared
  rw [hshared]
  exact hscene.2

end Context

end GridDispatch
