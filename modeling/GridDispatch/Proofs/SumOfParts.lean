/-
Refusals, and all threads as the sum of each.

A dispatch has two kinds of failures. It may be refused, and then it has not even looked at the
thread; that happens exactly if the context is not prepared or the arguments do not belong to it.
Or it may fault on the way. A dispatch over all threads makes its own checks first, and after them
none of the dispatches it consists of is refused (`dispatchEach_ne_refused`).

When nothing faults, and coroutines meet in the memory of their own thread only, a dispatch over all
threads is what each thread does alone. `Program.Secluded` says the latter: whatever else is shared
makes no difference to what coroutines answer and to what they leave in the memory. It is asked of
the states that the program's coroutines are ever in, so that kernels meet it which do not look at
what is shared (`KernelProgram.Oblivious.secluded`). Then a thread does the same before and after
any of the others, which is an instance of `Lockstep` (`dispatch_congr_of_secluded`), and the order
of the threads does not show.
-/
import GridDispatch.Proofs.Accounting
import GridDispatch.Proofs.Lockstep

set_option autoImplicit false

namespace GridDispatch

variable {ρ σ : Type}

namespace Context

variable {context : Context ρ σ} {backend : Backend ρ σ}

/-! ## Refusals -/

section Refusals

variable (backend)

/-- A dispatch that is accepted may fault, but it is not refused any more. -/
theorem dispatch_ne_refused {thread : Nat} (h : context.program.isSome ∧ thread < context.threads)
    (run : Run ρ σ) (refusal : Refusal) :
    (context.dispatch backend thread run).1 ≠ .error (.refused refusal) := by
  obtain ⟨program, hprogram⟩ := Option.isSome_iff_exists.mp h.1
  unfold dispatch
  rw [hprogram]
  dsimp only
  rw [if_neg (Nat.not_le.mpr h.2)]
  split
  · intro hrefused
    cases hrefused
  · split
    · intro hrefused
      cases hrefused
    · split
      · intro hrefused
        cases hrefused
      · intro hrefused
        cases hrefused

/-- **When a dispatch is refused**, and what it answers. It leaves the run as it was. -/
theorem dispatch_refused_iff (thread : Nat) (run : Run ρ σ) (refusal : Refusal) :
    (context.dispatch backend thread run).1 = .error (.refused refusal)
      ↔ (context.program = none ∧ refusal = .unprepared)
        ∨ (context.program ≠ none ∧ context.threads ≤ thread
          ∧ refusal = .threadIndex thread context.threads) := by
  cases hprogram : context.program with
  | none =>
      rw [dispatch, hprogram]
      simp [eq_comm]
  | some program =>
      by_cases hthread : context.threads ≤ thread
      · rw [dispatch, hprogram]
        simp [hthread, eq_comm]
      · have hne := dispatch_ne_refused backend
          ⟨by rw [hprogram]; rfl, Nat.not_le.mp hthread⟩ run refusal
        simp [hne, hthread]

theorem dispatch_of_refused {thread : Nat} {run : Run ρ σ} {refusal : Refusal}
    (h : (context.dispatch backend thread run).1 = .error (.refused refusal)) :
    (context.dispatch backend thread run).2 = run := by
  by_cases haccept : context.program.isSome ∧ thread < context.threads
  · exact absurd h (dispatch_ne_refused backend haccept run refusal)
  · obtain ⟨refusal', heq⟩ := Run.dispatch_of_refused backend haccept run
    rw [heq]

/-- None of the dispatches over all threads is refused. -/
theorem dispatchEach_ne_refused (hprogram : context.program.isSome) (order : List Nat) :
    ∀ (work : Array Stats) (crew : Crew ρ σ), (∀ index ∈ order, index < context.threads) →
      ∀ refusal, (context.dispatchEach backend work crew order).1 ≠ .error (.refused refusal) := by
  induction order with
  | nil => exact fun _ _ _ _ => nofun
  | cons index rest ih =>
      intro work crew hin refusal
      obtain ⟨hindex, hrest⟩ := List.forall_mem_cons.mp hin
      unfold dispatchEach
      split
      · exact nofun
      · next thread _ =>
          have hne := dispatch_ne_refused backend ⟨hprogram, hindex⟩
            ⟨thread, crew.shared, crew.events⟩
          split
          · next failure run heq =>
              rw [heq] at hne
              dsimp only
              intro hrefused
              rw [Except.error.inj hrefused] at hne
              exact hne refusal rfl
          · exact ih _ _ hrest refusal

/-- The outer checks leave no inner ones to fail. -/
theorem dispatchIn_ne_refused (hprogram : context.program.isSome) {order : List Nat}
    (horder : order.Perm (List.range context.threads)) {crew : Crew ρ σ}
    (hsize : crew.threads.size = context.threads) (refusal : Refusal) :
    (context.dispatchIn backend order crew).1 ≠ .error (.refused refusal) := by
  have hin : ∀ index ∈ order, index < context.threads :=
    fun index hmem => List.mem_range.mp (horder.mem_iff.mp hmem)
  have hne := dispatchEach_ne_refused backend hprogram order
    (Array.replicate context.threads .zero) crew hin
  have hsome : context.program.isNone = false := by
    rw [Option.isNone_eq_false_iff]
    exact hprogram
  unfold dispatchIn
  rw [if_neg (by rw [hsome]; exact Bool.false_ne_true), if_neg (not_not.mpr hsize)]
  split
  · next failure after heq =>
      rw [heq] at hne
      intro hrefused
      rw [Except.error.inj hrefused] at hne
      exact hne refusal rfl
  · split
    · exact nofun
    · exact nofun

/-- **When a dispatch over all threads is refused**, in whatever order they would be run. -/
theorem dispatchIn_refused_iff {order : List Nat}
    (horder : order.Perm (List.range context.threads)) (crew : Crew ρ σ) (refusal : Refusal) :
    (context.dispatchIn backend order crew).1 = .error (.refused refusal)
      ↔ (context.program = none ∧ refusal = .unprepared)
        ∨ (context.program ≠ none ∧ crew.threads.size ≠ context.threads
          ∧ refusal = .threadContexts context.threads crew.threads.size) := by
  cases hprogram : context.program with
  | none =>
      rw [dispatchIn, hprogram]
      simp [eq_comm]
  | some program =>
      by_cases hsize : crew.threads.size = context.threads
      · have hne := dispatchIn_ne_refused backend (by rw [hprogram]; rfl) horder hsize refusal
        simp [hne, hsize]
      · rw [dispatchIn, hprogram]
        simp [hsize, eq_comm]

theorem dispatchIn_of_refused {order : List Nat}
    (horder : order.Perm (List.range context.threads)) {crew : Crew ρ σ} {refusal : Refusal}
    (h : (context.dispatchIn backend order crew).1 = .error (.refused refusal)) :
    (context.dispatchIn backend order crew).2 = crew := by
  rcases (dispatchIn_refused_iff backend horder crew refusal).mp h with
    ⟨hprogram, -⟩ | ⟨hprogram, hsize, -⟩
  · rw [dispatchIn, hprogram]
    rfl
  · have hsome : context.program.isNone = false := by
      rw [Option.isNone_eq_false_iff, Option.isSome_iff_ne_none]
      exact hprogram
    rw [dispatchIn, if_neg (by rw [hsome]; exact Bool.false_ne_true), if_pos hsize]

end Refusals

end Context

/-! ## Threads by themselves -/

/-- The program's coroutines are in such states, and what they answer and what they leave in the
memory does not depend on anything but their states and the memory. Where that is so in all states,
nothing is asked of the program's own. -/
structure Program.Secluded (program : Program ρ σ) (backend : Backend ρ σ)
    (constants : Constants) (own : ρ → Prop) : Prop where
  start : program.Alike own (fun _ _ => True) constants program
  backend : backend.Alike own (fun _ _ => True) backend

/-! ### Kernels that do not look at what is shared -/

/-- How far a task has come, and the memory it leaves. -/
def Task.seen {α : Type} : Task σ α → Except Fault (α ⊕ (Scene σ → Task σ α)) × Bytes
  | .ended result scene => (.ok (.inl result), scene.memory)
  | .faulted fault scene => (.error fault, scene.memory)
  | .paused scene rest => (.ok (.inr rest), scene.memory)

/-- Whatever is shared, the rest of a task comes equally far, and so does what it leaves to be
run. -/
inductive Task.Oblivious {α : Type} : (Scene σ → Task σ α) → Prop where
  | intro {rest : Scene σ → Task σ α}
      (same : ∀ memory shared shared',
        (rest ⟨memory, shared'⟩).seen = (rest ⟨memory, shared⟩).seen)
      (later : ∀ scene after next, rest scene = .paused after next → Oblivious next) :
      Oblivious rest

/-- What is left to run does not look at what is shared, and the guard does not, either. -/
structure Future.Oblivious (future : Future σ) : Prop where
  rest : ∀ rest, future.rest = some rest → Task.Oblivious rest
  guard : ∀ memory shared shared',
    (future.guard ⟨memory, shared'⟩).memory = (future.guard ⟨memory, shared⟩).memory

/-- Nor does the kernel when it is called, whatever it makes of what is shared for others. -/
structure KernelProgram.Oblivious (k : KernelProgram σ) : Prop where
  begun : ∀ invocation scene, (k.kernel invocation scene).1.Oblivious
  same : ∀ invocation memory shared shared',
    (k.kernel invocation ⟨memory, shared'⟩).1 = (k.kernel invocation ⟨memory, shared⟩).1
    ∧ (k.kernel invocation ⟨memory, shared'⟩).2.memory
      = (k.kernel invocation ⟨memory, shared⟩).2.memory

namespace Future.Oblivious

variable {future : Future σ}

theorem own_resume (h : future.Oblivious) (scene : Scene σ) :
    (future.resume scene).state.Oblivious := by
  obtain ⟨rest, guard⟩ := future
  have hover : Future.Oblivious ⟨none, guard⟩ := ⟨nofun, h.guard⟩
  cases rest with
  | none => exact hover
  | some rest =>
      unfold Future.resume
      dsimp only
      cases htask : rest scene with
      | ended result after => exact hover
      | faulted fault after => exact hover
      | paused after next =>
          obtain ⟨-, hlater⟩ := h.rest rest rfl
          refine ⟨fun left hleft => ?_, h.guard⟩
          cases hleft
          exact hlater scene after next htask

theorem resume (h : future.Oblivious) :
    ActsAlike (fun _ _ => True) ((kernelBackend σ).resumption future)
      ((kernelBackend σ).resumption future) := by
  intro memory shared shared' _
  obtain ⟨rest, guard⟩ := future
  cases rest with
  | none => exact ⟨rfl, rfl, trivial⟩
  | some rest =>
      obtain ⟨hsame, -⟩ := h.rest rest rfl
      have hseen := hsame memory shared shared'
      have hguard : ∀ scene scene' : Scene σ, scene'.memory = scene.memory →
          (guard scene').memory = (guard scene).memory := by
        intro ⟨before, shared⟩ ⟨after, shared'⟩ hmemory
        obtain rfl : after = before := hmemory
        exact h.guard after shared shared'
      simp only [Backend.resumption, kernelBackend, Future.resume]
      generalize rest ⟨memory, shared⟩ = task at hseen
      generalize rest ⟨memory, shared'⟩ = task' at hseen
      -- the tasks have come equally far, so they are of one kind
      cases task <;> cases task' <;>
        simp only [Task.seen, Prod.mk.injEq, Except.ok.injEq, Except.error.injEq, Sum.inr.injEq,
          reduceCtorEq, false_and] at hseen
      · exact ⟨rfl, hguard _ _ hseen.2, trivial⟩
      · obtain ⟨rfl, hmemory⟩ := hseen
        exact ⟨rfl, hguard _ _ hmemory, trivial⟩
      · obtain ⟨rfl, hmemory⟩ := hseen
        exact ⟨rfl, hmemory, trivial⟩

theorem destroy (h : future.Oblivious) :
    ActsAlike (fun _ _ => True) ((kernelBackend σ).destruction future)
      ((kernelBackend σ).destruction future) := by
  intro memory shared shared' _
  obtain ⟨rest, guard⟩ := future
  cases rest with
  | none => exact ⟨rfl, rfl, trivial⟩
  | some rest => exact ⟨rfl, h.guard memory shared shared', trivial⟩

end Future.Oblivious

/-- Kernels that do not look at what is shared are secluded. -/
theorem KernelProgram.Oblivious.secluded {k : KernelProgram σ} (h : k.Oblivious)
    (constants : Constants) :
    k.program.Secluded (kernelBackend σ) constants Future.Oblivious where
  start := by
    refine ⟨fun workgroup subgroups memory shared shared' _ => ?_, fun _ _ scene state hstart => ?_⟩
    · obtain ⟨hfuture, hmemory⟩ := h.same ⟨constants, workgroup, subgroups⟩ memory shared shared'
      exact ⟨congrArg Except.ok hfuture, hmemory, trivial⟩
    · cases hstart
      exact h.begun _ scene
  backend := ⟨fun _ hown => hown.resume, fun _ scene hown => hown.own_resume scene,
    fun _ hown => hown.destroy⟩

namespace Context

variable {context : Context ρ σ} {backend : Backend ρ σ} {program : Program ρ σ} {own : ρ → Prop}

theorem reprogram_self (hprogram : context.program = some program) :
    context.reprogram (some program) = context := by
  rw [reprogram, ← hprogram]

/-- Then a thread does the same whatever the others have done before. -/
theorem dispatch_congr_of_secluded (hprogram : context.program = some program)
    (hsecluded : program.Secluded backend context.constants own) (index : Nat)
    {thread : Thread ρ} (hqueued : thread.QueuesOnly own) (shared shared' : σ)
    (events events' : Array Event) :
    (context.dispatch backend index ⟨thread, shared', events'⟩).1
        = (context.dispatch backend index ⟨thread, shared, events⟩).1
      ∧ (context.dispatch backend index ⟨thread, shared', events'⟩).2.thread
        = (context.dispatch backend index ⟨thread, shared, events⟩).2.thread := by
  have hcoupled : Run.Coupled own (fun _ _ => True) _ _ (⟨thread, shared, events⟩ : Run ρ σ)
      ⟨thread, shared', events'⟩ := .refl_of rfl hqueued trivial
  have hstep := hcoupled.dispatch hsecluded.backend hprogram hsecluded.start index
  rw [reprogram_self hprogram] at hstep
  exact ⟨hstep.1, hstep.2.thread_eq⟩

/-- Threads that answer the same and end up the same whatever the others have done are run one
after another. -/
theorem dispatchEach_eq_of_alone {stats : Nat → Stats} {last : Nat → Thread ρ} (order : List Nat) :
    ∀ (work : Array Stats) (crew : Crew ρ σ), order.Nodup →
      (∀ index ∈ order, ∃ thread, crew.threads[index]? = some thread
        ∧ ∀ shared events,
          (context.dispatch backend index ⟨thread, shared, events⟩).1 = .ok (stats index)
          ∧ (context.dispatch backend index ⟨thread, shared, events⟩).2.thread = last index) →
      ∃ after, context.dispatchEach backend work crew order
          = (.ok (order.foldl
              (fun work index => work.setIfInBounds index (stats index)) work), after)
        ∧ after.threads = order.foldl
          (fun threads index => threads.setIfInBounds index (last index)) crew.threads := by
  induction order with
  | nil => exact fun _ crew _ _ => ⟨crew, rfl, rfl⟩
  | cons index rest ih =>
      intro work crew hnodup halone
      obtain ⟨hout, hrest⟩ := List.nodup_cons.mp hnodup
      obtain ⟨⟨thread, hthread, hfirst⟩, hlater⟩ := List.forall_mem_cons.mp halone
      obtain ⟨hanswer, hlast⟩ := hfirst crew.shared crew.events
      unfold dispatchEach
      rw [hthread]
      dsimp only
      generalize context.dispatch backend index ⟨thread, crew.shared, crew.events⟩ = outcome
        at hanswer hlast
      obtain ⟨answer, run⟩ := outcome
      dsimp only at hanswer hlast
      rw [hanswer, List.foldl_cons, List.foldl_cons]
      dsimp only
      rw [hlast]
      -- the other threads are as they were
      refine ih _ _ hrest fun other hmem => ?_
      have hne : index ≠ other := fun heq => hout (heq ▸ hmem)
      rw [Array.getElem?_setIfInBounds_ne hne]
      exact hlater other hmem

/-- What a thread of a crew does alone: a dispatch on it, before any other thread is run. -/
def Crew.alone (crew : Crew ρ σ) (context : Context ρ σ) (backend : Backend ρ σ) (index : Nat) :
    Except Failure Stats × Run ρ σ :=
  context.dispatch backend index ⟨crew.threads[index]?.getD .initial, crew.shared, crew.events⟩

theorem dispatchIn_eq_of_secluded (hprogram : context.program = some program)
    (hsecluded : program.Secluded backend context.constants own) {crew : Crew ρ σ}
    (hsize : crew.threads.size = context.threads)
    (hqueued : ∀ thread ∈ crew.threads, thread.QueuesOnly own) {work : Nat → Stats}
    (hwork : ∀ i < context.threads, (crew.alone context backend i).1 = .ok (work i))
    {total : Stats} (htotal : Stats.sum ((List.range context.threads).map work) = .ok total)
    {order : List Nat} (horder : order.Perm (List.range context.threads)) :
    ∃ after, context.dispatchIn backend order crew = (.ok total, after)
      ∧ after.threads.size = context.threads
      ∧ ∀ i < context.threads,
        after.threads[i]? = some (crew.alone context backend i).2.thread := by
  have halone : ∀ index ∈ order, ∃ thread, crew.threads[index]? = some thread
      ∧ ∀ shared events,
        (context.dispatch backend index ⟨thread, shared, events⟩).1 = .ok (work index)
        ∧ (context.dispatch backend index ⟨thread, shared, events⟩).2.thread
          = (crew.alone context backend index).2.thread := by
    intro index hmem
    have hindex : index < context.threads := List.mem_range.mp (horder.mem_iff.mp hmem)
    have hfound := Array.getElem?_eq_getElem (hsize ▸ hindex : index < crew.threads.size)
    refine ⟨_, hfound, fun shared events => ?_⟩
    have hsame := dispatch_congr_of_secluded hprogram hsecluded index
      (hqueued _ (Array.mem_of_getElem? hfound)) crew.shared shared crew.events events
    have hthis := hwork index hindex
    rw [Crew.alone, hfound, Option.getD_some] at hthis ⊢
    exact ⟨hsame.1.trans hthis, hsame.2⟩
  -- every entry of the order finds its thread untouched, and no other one comes to it again
  obtain ⟨after, heach, hthreads⟩ := dispatchEach_eq_of_alone order
    (Array.replicate context.threads .zero) crew (horder.nodup_iff.mpr List.nodup_range) halone
  have hsome : ¬ context.program.isNone = true := by
    rw [hprogram]
    exact Bool.false_ne_true
  have hlength : after.threads.size = context.threads := by
    rw [hthreads, size_foldl_set, hsize]
  refine ⟨⟨after.threads, after.shared,
    after.events.push (.dispatchDone context.threads total)⟩, ?_, hlength, fun i hi => ?_⟩
  · rw [dispatchIn, if_neg hsome, if_neg (not_not.mpr hsize), heach]
    dsimp only
    rw [foldl_set_eq_map work .zero horder, htotal]
  · change after.threads[i]? = _
    have hmem : i ∈ order := horder.mem_iff.mpr (List.mem_range.mpr hi)
    rw [hthreads, getElem?_foldl_set fun index => (crew.alone context backend index).2.thread,
      if_pos ⟨hmem, hsize ▸ hi⟩]

/-- **Refusals, and the sum of the parts.** A dispatch is refused exactly if the context is not
prepared, or else if the thread index is too great; a dispatch over all threads exactly if it is not
prepared, or else if the number of threads is another one, and whatever the order in which they
would be run. Then nothing at all has changed. Otherwise, if no thread would fault alone and what
coroutines do depends on nothing but the memory of their thread, those included that are still
queued, a dispatch over all threads answers, in every order, the sum of what the threads answer
alone, field by field, and leaves each of them as it would be alone. -/
theorem refused_or_sum_of_parts (context : Context ρ σ) (backend : Backend ρ σ) :
    (∀ (thread : Nat) (run : Run ρ σ) (refusal : Refusal),
      ((context.dispatch backend thread run).1 = .error (.refused refusal)
        ↔ (context.program = none ∧ refusal = .unprepared)
          ∨ (context.program ≠ none ∧ context.threads ≤ thread
            ∧ refusal = .threadIndex thread context.threads))
      ∧ ((context.dispatch backend thread run).1 = .error (.refused refusal) →
        (context.dispatch backend thread run).2 = run))
    ∧ (∀ order : List Nat, order.Perm (List.range context.threads) →
      ∀ (crew : Crew ρ σ) (refusal : Refusal),
        ((context.dispatchIn backend order crew).1 = .error (.refused refusal)
          ↔ (context.program = none ∧ refusal = .unprepared)
            ∨ (context.program ≠ none ∧ crew.threads.size ≠ context.threads
              ∧ refusal = .threadContexts context.threads crew.threads.size))
        ∧ ((context.dispatchIn backend order crew).1 = .error (.refused refusal) →
          (context.dispatchIn backend order crew).2 = crew))
    ∧ ∀ program own, context.program = some program →
      program.Secluded backend context.constants own →
      ∀ crew : Crew ρ σ, crew.threads.size = context.threads →
      (∀ thread ∈ crew.threads, thread.QueuesOnly own) →
      (∀ i < context.threads, ∀ fault,
        (crew.alone context backend i).1 ≠ .error (.faulted fault)) →
      ∃ work : Nat → Stats,
        (∀ i < context.threads, (crew.alone context backend i).1 = .ok (work i))
        ∧ (((List.range context.threads).map fun i => (work i).workgroups).sum < word →
          ((List.range context.threads).map fun i => (work i).coroutines).sum < word →
          ((List.range context.threads).map fun i => (work i).resumptions).sum < word →
          ∀ order : List Nat, order.Perm (List.range context.threads) →
            ∃ after, context.dispatchIn backend order crew
                = (.ok ⟨((List.range context.threads).map fun i => (work i).workgroups).sum,
                    ((List.range context.threads).map fun i => (work i).coroutines).sum,
                    ((List.range context.threads).map fun i => (work i).resumptions).sum⟩, after)
              ∧ after.threads.size = context.threads
              ∧ ∀ i < context.threads,
                after.threads[i]? = some (crew.alone context backend i).2.thread) := by
  refine ⟨fun thread run refusal =>
      ⟨dispatch_refused_iff backend thread run refusal, dispatch_of_refused backend⟩,
    fun order horder crew refusal => ⟨dispatchIn_refused_iff backend horder crew refusal,
      dispatchIn_of_refused backend horder⟩, ?_⟩
  intro program own hprogram hsecluded crew hsize hqueued hquiet
  have hanswer : ∀ i, ∃ stats, i < context.threads →
      (crew.alone context backend i).1 = .ok stats := by
    intro i
    by_cases hi : i < context.threads
    · cases halone : (crew.alone context backend i).1 with
      | ok stats => exact ⟨stats, fun _ => rfl⟩
      | error failure =>
          -- it is accepted, so it could only fault
          cases failure with
          | refused refusal =>
              exact absurd halone
                (dispatch_ne_refused backend ⟨by rw [hprogram]; rfl, hi⟩ _ refusal)
          | faulted fault => exact absurd halone (hquiet i hi fault)
    · exact ⟨.zero, fun hlt => absurd hlt hi⟩
  choose work hwork using hanswer
  refine ⟨work, hwork, ?_⟩
  -- the fields of the sum are counts, so that adding them up does not fault
  intro hworkgroups hcoroutines hresumptions order horder
  refine dispatchIn_eq_of_secluded hprogram hsecluded hsize hqueued hwork ?_ horder
  rw [Stats.sum_eq]
  · simp only [List.map_map, Function.comp_def]
  · simpa only [List.map_map, Function.comp_def] using hworkgroups
  · simpa only [List.map_map, Function.comp_def] using hcoroutines
  · simpa only [List.map_map, Function.comp_def] using hresumptions

/-- Waits for so many barriers, and turns over what is shared each time. -/
def flickerFor : Nat → Scene Bool → Task Bool Unit
  | 0, scene => .ended () { scene with shared := !scene.shared }
  | left + 1, scene =>
    (Task.await .fresh () { scene with shared := !scene.shared }).andThen fun _ => flickerFor left

/-- A kernel whose coroutines share a bit, which none of them asks for. -/
def flicker : KernelProgram Bool where
  info := ⟨20, true, 0, ⟨8, 1, 1⟩⟩
  kernel invocation scene :=
    (⟨some (flickerFor ((invocation.workgroup.x + invocation.subgroups.first) % 3)), id⟩, scene)

theorem oblivious_flickerFor (waits : Nat) : Task.Oblivious (flickerFor waits) := by
  induction waits with
  | zero => exact ⟨fun _ _ _ => rfl, nofun⟩
  | succ left ih =>
      refine ⟨fun _ _ _ => rfl, fun scene after next hpaused => ?_⟩
      cases hpaused
      exact ih

theorem oblivious_future (waits : Nat) : Future.Oblivious ⟨some (flickerFor waits), id⟩ := by
  refine ⟨fun rest hrest => ?_, fun _ _ _ => rfl⟩
  cases hrest
  exact oblivious_flickerFor waits

theorem oblivious_flicker : flicker.Oblivious where
  begun _ _ := oblivious_future _
  same _ _ _ _ := ⟨rfl, rfl⟩

/-- Three workgroups on two threads. -/
def flickerContext : Context (Future Bool) Bool :=
  (Context.initial.prepare 2 flicker.program #[] ⟨3, 1, 1⟩).2

/-- A thread on which a coroutine was left behind. -/
def flickerThread : Thread (Future Bool) :=
  ⟨⟨#[none, some ⟨⟨0, ⟨2, 0, 0⟩, ⟨0, 1⟩⟩, ⟨some (flickerFor 1), id⟩⟩, none], 1, 2⟩, .initial, 1⟩

/-- Two threads, one of them with a coroutine left behind, that are run in the other order and turn
the bit over for each other. -/
theorem refused_or_sum_of_parts_flicker :
    let crew : Crew (Future Bool) Bool := ⟨#[flickerThread, .initial], false, #[]⟩
    (flickerContext.program = some flicker.program
      ∧ flicker.program.Secluded (kernelBackend Bool) flickerContext.constants Future.Oblivious
      ∧ crew.threads.size = flickerContext.threads
      ∧ ∀ thread ∈ crew.threads, thread.QueuesOnly Future.Oblivious)
    ∧ (crew.alone flickerContext (kernelBackend Bool) 0).1 = .ok ⟨2, 4, 7⟩
    ∧ (crew.alone flickerContext (kernelBackend Bool) 1).1 = .ok ⟨1, 2, 5⟩
    ∧ (flickerContext.dispatchIn (kernelBackend Bool) [1, 0] crew).1 = .ok ⟨3, 6, 12⟩ := by
  intro crew
  have hsecluded := oblivious_flicker.secluded flickerContext.constants
  have hqueued : ∀ thread ∈ crew.threads, thread.QueuesOnly Future.Oblivious := by
    intro thread hmem
    have hcases : thread = flickerThread ∨ thread = .initial := by
      simpa [crew] using hmem
    rcases hcases with rfl | rfl
    · intro coroutine hleft
      obtain rfl := List.mem_singleton.mp hleft
      exact oblivious_future 1
    · exact (Thread.queuesOnly_iff Ring.stores_empty).mpr nofun
  have hfirst : (crew.alone flickerContext (kernelBackend Bool) 0).1 = .ok ⟨2, 4, 7⟩ := by
    decide +kernel
  have hsecond : (crew.alone flickerContext (kernelBackend Bool) 1).1 = .ok ⟨1, 2, 5⟩ := by
    decide +kernel
  obtain ⟨work, hwork, hsum⟩ := (refused_or_sum_of_parts flickerContext (kernelBackend Bool)).2.2
    _ _ rfl hsecluded crew rfl hqueued fun i hi fault => by
      obtain rfl | rfl : i = 0 ∨ i = 1 := by
        have hi : i < 2 := hi
        omega
      · rw [hfirst]
        exact nofun
      · rw [hsecond]
        exact nofun
  have hwork₀ : work 0 = ⟨2, 4, 7⟩ := Except.ok.inj ((hwork 0 (by decide)).symm.trans hfirst)
  have hwork₁ : work 1 = ⟨1, 2, 5⟩ := Except.ok.inj ((hwork 1 (by decide)).symm.trans hsecond)
  have hthreads : List.range flickerContext.threads = [0, 1] := rfl
  simp only [hthreads, List.map_cons, List.map_nil, hwork₀, hwork₁] at hsum
  obtain ⟨after, heq, -⟩ := hsum (by decide) (by decide) (by decide) [1, 0] (by decide)
  refine ⟨⟨rfl, hsecluded, rfl, hqueued⟩, hfirst, hsecond, ?_⟩
  rw [heq]
  rfl

end Context

end GridDispatch
