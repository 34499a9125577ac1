/-
The steps of a dispatch.

Whatever program a thread runs, and however far it comes, it does four things only: it begins a
coroutine, it resumes the one in front of its queue, it destroys the one in front, and it passes
over a front slot without a coroutine, which sound queues do not have. `Run.Step` lists them, each
with its outcome whatever was answered, and `Run.Reaches` is any number of them in a row.

The loops of a dispatch are followed here once and for all (`reaches_discard`,
`reaches_spawnFrom`, `reaches_drain`, `reaches_runFrom`). What a dispatch keeps is then shown of
single steps: `Reaches.keeps` takes it to the loops.
-/
import GridDispatch.Schedule.Dispatch
import Mathlib.Logic.Relation

set_option autoImplicit false

namespace GridDispatch

variable {ρ σ : Type}

namespace Run

/-- One step of a thread that runs this program. -/
inductive Step (backend : Backend ρ σ) (program : Program ρ σ) (constants : Constants)
    (run : Run ρ σ) : Run ρ σ → Prop
  | spawn (workgroup : Coord) (subgroups : Subgroups) :
      Step backend program constants run
        (run.spawn backend program constants workgroup subgroups).2
  | resume {coroutine : Coroutine ρ} {queue : Ring (Coroutine ρ)} :
      run.thread.queue.pop = .ok (some coroutine, queue) →
      Step backend program constants run ((run.withQueue queue).resume backend coroutine).2
  | destroy {coroutine : Coroutine ρ} {queue : Ring (Coroutine ρ)} :
      run.thread.queue.pop = .ok (some coroutine, queue) →
      Step backend program constants run ((run.withQueue queue).destroy backend coroutine)
  | pass {queue : Ring (Coroutine ρ)} :
      run.thread.queue.pop = .ok (none, queue) →
      Step backend program constants run (run.withQueue queue)

/-- Any number of steps. -/
abbrev Reaches (backend : Backend ρ σ) (program : Program ρ σ) (constants : Constants) :
    Run ρ σ → Run ρ σ → Prop :=
  Relation.ReflTransGen (Step backend program constants)

variable {backend : Backend ρ σ} {program : Program ρ σ} {constants : Constants}

/-- What every step keeps is kept by any number of them. -/
theorem Reaches.keeps {P : Run ρ σ → Prop}
    (hstep : ∀ run after, Step backend program constants run after → P run → P after)
    {run after : Run ρ σ} (hreaches : Reaches backend program constants run after) (h : P run) :
    P after := by
  induction hreaches with
  | refl => exact h
  | tail _ hlast ih => exact hstep _ _ hlast ih

/-! ## The loops -/

theorem reaches_spawnFrom (workgroup : Coord) (part : Nat → Subgroups) (count : Nat) :
    ∀ (run : Run ρ σ) (index : Nat), Reaches backend program constants run
      (run.spawnFrom backend program constants workgroup part index count).2 := by
  induction count with
  | zero => exact fun _ _ => .refl
  | succ count ih =>
      intro run index
      have hfirst : Step backend program constants run
          (run.spawn backend program constants workgroup (part index)).2 := .spawn _ _
      rw [spawnFrom]
      split
      · next heq =>
          rw [heq] at hfirst
          exact .single hfirst
      · next after heq =>
          rw [heq] at hfirst
          exact .head hfirst (ih after (index + 1))

/-- The recursion is that of the loop. -/
theorem reaches_drain (run : Run ρ σ) (count : Nat) :
    Reaches backend program constants run (run.drain backend count).2 := by
  rw [drain]
  split
  · exact .refl
  · next hpop => exact .single (.pass hpop)
  · next coroutine queue hpop =>
      have hresume : Step backend program constants run
          ((run.withQueue queue).resume backend coroutine).2 := .resume hpop
      by_cases hroom : count + 1 < word
      · simp only [dif_pos hroom]
        split
        · next hresumed =>
            rw [hresumed] at hresume
            exact .single hresume
        · next after hresumed =>
            rw [hresumed] at hresume
            exact .head hresume (reaches_drain after (count + 1))
      · simp only [dif_neg hroom]
        exact .single (.destroy hpop)
termination_by word - count
decreasing_by omega

theorem reaches_discard (run : Run ρ σ) :
    Reaches backend program constants run (run.discard backend).2 := by
  rw [discard]
  split
  · exact .refl
  · next hpop => exact .single (.pass hpop)
  · next hpop => exact .head (.destroy hpop) (reaches_discard _)
termination_by run.thread.queue.occupied
decreasing_by exact Ring.occupied_pop (by assumption)

theorem reaches_runWorkgroup (context : Context ρ σ) (stats : Stats) (run : Run ρ σ)
    (workgroup : Coord) : Reaches backend program context.constants run
      (context.runWorkgroup backend program stats run workgroup).2 := by
  have hspawn : Reaches backend program context.constants run
      (run.spawnFrom backend program context.constants workgroup context.coroutinePart 0
        context.coroutineCount).2 := reaches_spawnFrom _ _ _ _ _
  rw [Context.runWorkgroup]
  split
  · exact .refl
  · split
    · next heq =>
        rw [heq] at hspawn
        exact hspawn
    · next spawned heq =>
        rw [heq] at hspawn
        have hdrain : Reaches backend program context.constants spawned
            (spawned.drain backend stats.resumptions).2 := reaches_drain _ _
        split
        · exact hspawn
        · split
          · next hdrained =>
              rw [hdrained] at hdrain
              exact hspawn.trans hdrain
          · next hdrained =>
              rw [hdrained] at hdrain
              exact hspawn.trans hdrain

theorem reaches_runFrom (context : Context ρ σ) (thread count : Nat) :
    ∀ (stats : Stats) (run : Run ρ σ) (place : Nat), Reaches backend program context.constants run
      (context.runFrom backend program thread stats run place count).2 := by
  induction count with
  | zero => exact fun _ _ _ => .refl
  | succ count ih =>
      intro stats run place
      have hfirst : Reaches backend program context.constants run
          (context.runWorkgroup backend program stats run (context.shareAt thread place)).2 :=
        reaches_runWorkgroup _ _ _ _
      rw [Context.runFrom]
      split
      · next heq =>
          rw [heq] at hfirst
          exact hfirst
      · next stats after heq =>
          rw [heq] at hfirst
          exact hfirst.trans (ih stats after (place + 1))

/-! ## A dispatch -/

variable {run cleared : Run ρ σ} {context : Context ρ σ} {thread : Nat}

/-- What is left of a dispatch that was accepted, once the queue is discarded. -/
theorem dispatch_eq_of_discard (hprogram : context.program = some program)
    (hthread : thread < context.threads) (hdiscard : run.discard backend = (.ok (), cleared)) :
    context.dispatch backend thread run = match cleared.reserveMemory context.memorySize with
      | (.error fault, run) => (.error (.faulted fault), run)
      | (.ok (), run) =>
        match context.runFrom backend program thread .zero run 0 (context.shareSize thread) with
        | (.error fault, run) => (.error (.faulted fault), run)
        | (.ok stats, run) =>
          (.ok stats, run.record (.shareDone thread context.threads stats)) := by
  rw [Context.dispatch, hprogram]
  dsimp only
  rw [if_neg (Nat.not_le.mpr hthread)]
  exact hdiscard ▸ rfl

/-- Once the queue is discarded and the memory is reserved, or could not be, a dispatch that was
accepted takes steps only, and notes at most that it is done. -/
theorem dispatch_reaches (hprogram : context.program = some program)
    (hthread : thread < context.threads) (hdiscard : run.discard backend = (.ok (), cleared)) :
    ∃ last, Reaches backend program context.constants
        (cleared.reserveMemory context.memorySize).2 last
      ∧ ((context.dispatch backend thread run).2 = last
        ∨ ∃ stats, (context.dispatch backend thread run).2
          = last.record (.shareDone thread context.threads stats)) := by
  rw [dispatch_eq_of_discard hprogram hthread hdiscard]
  split
  · next heq =>
      rw [heq]
      exact ⟨_, .refl, .inl rfl⟩
  · next ready heq =>
      rw [heq]
      have hshare : Reaches backend program context.constants ready
          (context.runFrom backend program thread .zero ready 0 (context.shareSize thread)).2 :=
        reaches_runFrom _ _ _ _ _ _
      split
      · next hrun =>
          rw [hrun] at hshare
          exact ⟨_, hshare, .inl rfl⟩
      · next hrun =>
          rw [hrun] at hshare
          exact ⟨_, hshare, .inr ⟨_, rfl⟩⟩

end Run

end GridDispatch
