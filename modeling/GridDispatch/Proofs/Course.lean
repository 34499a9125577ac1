/-
The course of a dispatch.

When coroutines keep a pace, a dispatch leaves nothing open: its answer and all that happens to
coroutines are a function of the numbers of waits, of the shape of the context and of how many
coroutines the thread has begun before. The function is `Context.course`, and that a dispatch takes
its course is `Paced.dispatch_course`. It is what dispatches of different programs, over different
shared states and with different backends, can be compared by.

That a share takes its course was found in `ShareSchedule`, with waits that come out of the run.
Coroutines that keep a pace leave no choice of them, so they are the waits of the pace
(`Paced.map_lineupAt`).
-/
import GridDispatch.Proofs.Pacing

set_option autoImplicit false

namespace GridDispatch

/-! ## Courses -/

namespace Context

variable {ρ σ : Type}

/-- The coroutines of the workgroup at a place of a thread's share, with the numbers of their
waits. -/
def crewAt (context : Context ρ σ) (waits : Coord → Subgroups → Nat) (thread begun place : Nat) :
    Lineup :=
  context.lineup (begun + place * context.coroutineCount) (context.shareAt thread place)
    fun index => waits (context.shareAt thread place) (context.coroutinePart index)

/-- What a dispatch answers, and what happens in it after the queue was cleared, if coroutines
keep this pace and so many were begun on the thread before. -/
def course (context : Context ρ σ) (waits : Coord → Subgroups → Nat) (thread begun : Nat) :
    Except Failure Stats × List Event :=
  match memoryFault context.memorySize with
  | some fault => (.error (.faulted fault), [])
  | none =>
    let share := Lineup.courseAll .zero
      ((List.range' 0 (context.shareSize thread)).map (context.crewAt waits thread begun))
    (share.1.mapError .faulted, share.2)

end Context

/-! ## Dispatches take their course -/

variable {ρ σ : Type} {backend : Backend ρ σ} {program : Program ρ σ}

namespace Context

variable {context : Context ρ σ} {good : σ → Prop} {waits : Coord → Subgroups → Nat}
  {threads thread : Nat} {grid : Coord}

theorem lineup_congr (context : Context ρ σ) (begun : Nat) (workgroup : Coord)
    {found others : Nat → Nat} (h : ∀ i < context.coroutineCount, found i = others i) :
    context.lineup begun workgroup found = context.lineup begun workgroup others := by
  rw [lineup, lineup]
  exact List.map_congr_left fun i hi => by rw [h i (List.mem_range.mp hi)]

/-- The waits that come out of a run of paced coroutines are those of the pace. -/
theorem Paced.map_lineupAt (hpaced : context.Paced program backend good waits)
    (h : context.Prepared threads program grid) (begun : Nat) {found : Nat → Nat → Nat}
    (hrespects : ∀ p, 0 ≤ p → p < 0 + context.shareSize thread →
      context.Respects program backend (context.Fine good) (context.shareAt thread p) (found p)) :
    (List.range' 0 (context.shareSize thread)).map (context.lineupAt thread begun found)
      = (List.range' 0 (context.shareSize thread)).map (context.crewAt waits thread begun) := by
  refine List.map_congr_left fun p hp => ?_
  obtain ⟨hle, hlt⟩ := List.mem_range'_1.mp hp
  refine context.lineup_congr _ _ fun i hi => ?_
  exact hrespects p hle hlt i hi _ (hpaced.waits_of (h.due (by omega) hi))

/-- **A dispatch takes its course**, behind what was left behind on the thread. -/
theorem Paced.dispatch_course (hpaced : context.Paced program backend good waits)
    (h : context.Prepared threads program grid) (hthread : thread < threads) (run : Run ρ σ)
    (hready : run.thread.Ready backend good) (hgood : good run.shared) :
    (context.dispatch backend thread run).1 = (context.course waits thread run.thread.begun).1
    ∧ (context.dispatch backend thread run).2.history
      = run.history ++ run.queued.map .destroyed
        ++ (context.course waits thread run.thread.begun).2 := by
  rw [course]
  cases hmemory : memoryFault context.memorySize with
  | some fault =>
      obtain ⟨queue, hshows, -, -⟩ := hready.reachable.shows
      obtain ⟨after, heq, hafter⟩ := hshows.dispatch_of_memoryFault backend h.program_eq
        (h.threads_eq ▸ hthread) hmemory
      rw [heq]
      refine ⟨rfl, ?_⟩
      rw [hafter.history, hshows.history_discard backend, List.append_nil]
  | none =>
      obtain ⟨ready, scene, hshows, hfine, heq⟩ :=
        h.dispatch_of_memory hmemory hthread run hready hgood
      have hcount : Stats.zero.workgroups + context.shareSize thread < word := by
        rw [Stats.zero, Nat.zero_add]
        exact Nat.lt_of_le_of_lt (context.shareSize_le thread) (h.workgroups_eq ▸ h.workgroups_lt)
      obtain ⟨found, hrespects, hanswer, hhistory, -⟩ := Run.Shows.runFrom_lands hpaced.reliable
        h.coroutineCount_le thread run.thread.begun (context.shareSize thread) 0 .zero
        (by rwa [Nat.zero_mul, Nat.add_zero]) hfine (fun p _ hp i hi => h.due (by omega) hi)
        hcount (show 0 < word by decide)
      rw [hpaced.map_lineupAt h run.thread.begun hrespects] at hanswer hhistory
      rw [heq]
      rcases hshare : context.runFrom backend program thread .zero ready 0
        (context.shareSize thread) with ⟨fault | stats, last⟩
      · rw [hshare] at hanswer hhistory
        dsimp only at hanswer hhistory ⊢
        rw [← hanswer]
        exact ⟨rfl, hhistory⟩
      · rw [hshare] at hanswer hhistory
        dsimp only at hanswer hhistory ⊢
        rw [← hanswer, Run.history_record_other last rfl]
        exact ⟨rfl, hhistory⟩

end Context

end GridDispatch
