/-
Two runs in lockstep.

A thread does the same things whenever its coroutines answer the same and leave the same memory,
whatever else they share. So a run over one kind of shared state and a run over another can be laid
side by side: as long as programs and coroutines act alike on both (`ActsAlike`), the threads are
equal after every step, the answers are equal, and the same events are added to the two histories.
`Run.Coupled` is what is kept, and `Run.InStep` says it of two outcomes.

A back end has states that no coroutine of the program is ever in, and nothing is asked of them.
That a thread queues coroutines in the program's own states only (`Thread.QueuesOnly`) is part of
what is kept.

It is used in two ways. A run may be watched by a copy of it that shares a notebook in addition;
that it is in step with the original means that the notes are about the original. And two threads
whose coroutines do not share anything may be run one after the other or apart.

There is one lemma for each function of a run. None of them asks for a sound ring or a sound block,
as a step that faults on the one side faults on the other; so what is queued is what lies in the
slots, whether or not the positions of the ring are right.
-/
import GridDispatch.Proofs.MemoryEvents

set_option autoImplicit false

namespace GridDispatch

variable {ρ σ τ : Type}

/-! ## What lies in the slots of a ring -/

namespace Ring

variable {α : Type} {q after : Ring α} {item other : α}

theorem mem_slotOrder : item ∈ q.slotOrder ↔ some item ∈ q.slots := by
  rw [slotOrder, List.mem_filterMap]
  simp

theorem mem_slotOrder_grow {growth : Growth} (h : q.grow = .ok (after, growth))
    (hmem : other ∈ after.slotOrder) : other ∈ q.slotOrder := by
  rw [mem_slotOrder] at hmem ⊢
  have hpart : ∀ first last, some other ∈ q.slots.extract first last → some other ∈ q.slots := by
    intro first last hpart
    obtain ⟨_, _, heq⟩ := Array.mem_extract_iff_getElem.mp hpart
    exact heq ▸ Array.getElem_mem _
  unfold grow at h
  split at h
  · cases h
  · dsimp only at h
    split at h
    · split at h
      · split at h
        · cases h
        · cases h
          simp only [Array.mem_append, Array.mem_replicate, reduceCtorEq, and_false, false_or,
            or_false] at hmem
          exact hmem.elim (hpart _ _) (hpart _ _)
      · cases h
    · cases h
      simpa using hmem

theorem mem_slotOrder_place {next : Nat} (h : q.place item next = .ok after)
    (hmem : other ∈ after.slotOrder) : other = item ∨ other ∈ q.slotOrder := by
  rw [mem_slotOrder] at hmem ⊢
  unfold place at h
  split at h
  · cases h
    rcases Array.mem_or_eq_of_mem_setIfInBounds hmem with hold | hnew
    · exact .inr hold
    · exact .inl (Option.some.inj hnew)
  · cases h

/-- What is placed into the ring: it was grown before, or not. -/
theorem place_of_push {growth : Option Growth} (h : q.push item = .ok (after, growth)) :
    ∃ ready next, ready.place item next = .ok after
      ∧ (ready = q ∨ ∃ growth, q.grow = .ok (ready, growth)) := by
  unfold push at h
  split at h
  · cases h
  · next sum _ =>
      dsimp only at h
      generalize (if q.capacity ≤ sum then 0 else sum) = next at h
      split at h
      · split at h
        · cases h
        · next grown growth hgrow =>
            split at h
            · cases h
            · split at h
              · cases h
              · split at h
                · cases h
                · next hplace =>
                    cases h
                    exact ⟨grown, _, hplace, .inr ⟨growth, hgrow⟩⟩
      · split at h
        · cases h
        · next hplace =>
            cases h
            exact ⟨q, _, hplace, .inl rfl⟩

/-- Pushing adds the item and nothing else. -/
theorem mem_slotOrder_push {growth : Option Growth} (h : q.push item = .ok (after, growth))
    (hmem : other ∈ after.slotOrder) : other = item ∨ other ∈ q.slotOrder := by
  obtain ⟨ready, next, hplace, hready⟩ := place_of_push h
  refine (mem_slotOrder_place hplace hmem).imp_right fun hold => ?_
  rcases hready with rfl | ⟨growth, hgrow⟩
  · exact hold
  · exact mem_slotOrder_grow hgrow hold

/-- What is taken is what lay at the front, and then its slot is empty. -/
theorem slots_of_pop {found : Option α} (h : q.pop = .ok (found, after)) :
    (found = none ∧ after = q)
      ∨ q.slots[q.start]? = some found ∧ after.slots = q.slots.setIfInBounds q.start none := by
  unfold pop at h
  split at h
  · cases h
    exact .inl ⟨rfl, rfl⟩
  · split at h
    · cases h
    · next hfound =>
        split at h
        · cases h
        · split at h
          · cases h
          · cases h
            exact .inr ⟨hfound, rfl⟩

theorem mem_slotOrder_of_pop (h : q.pop = .ok (some item, after)) : item ∈ q.slotOrder := by
  rcases slots_of_pop h with ⟨hnone, -⟩ | ⟨hfound, -⟩
  · cases hnone
  · exact mem_slotOrder.mpr (Array.mem_of_getElem? hfound)

theorem mem_slotOrder_pop {found : Option α} (h : q.pop = .ok (found, after))
    (hmem : other ∈ after.slotOrder) : other ∈ q.slotOrder := by
  rcases slots_of_pop h with ⟨-, rfl⟩ | ⟨-, hslots⟩
  · exact hmem
  · rw [mem_slotOrder] at hmem ⊢
    rw [hslots] at hmem
    exact (Array.mem_or_eq_of_mem_setIfInBounds hmem).resolve_right nofun

end Ring

/-- The coroutines that the thread queues are in such states. -/
def Thread.QueuesOnly (own : ρ → Prop) (thread : Thread ρ) : Prop :=
  ∀ coroutine ∈ thread.queue.slotOrder, own coroutine.state

/-- If the positions of the ring are right, these are the items of the queue. -/
theorem Thread.queuesOnly_iff {own : ρ → Prop} {thread : Thread ρ} {items : List (Coroutine ρ)}
    (h : thread.queue.Stores items) :
    thread.QueuesOnly own ↔ ∀ coroutine ∈ items, own coroutine.state := by
  simp only [QueuesOnly, h.slotOrder_perm.mem_iff]

/-! ## Acting alike -/

/-- Whatever the memory is, the two actions give the same answer and leave the same memory. -/
def ActsAlike {α : Type} (same : σ → τ → Prop) (action : Scene σ → α × Scene σ)
    (other : Scene τ → α × Scene τ) : Prop :=
  ∀ memory shared shared', same shared shared' →
    (other ⟨memory, shared'⟩).1 = (action ⟨memory, shared⟩).1
    ∧ (other ⟨memory, shared'⟩).2.memory = (action ⟨memory, shared⟩).2.memory
    ∧ same (action ⟨memory, shared⟩).2.shared (other ⟨memory, shared'⟩).2.shared

/-- Resuming, as an action that answers the next state, too. -/
def Backend.resumption (backend : Backend ρ σ) (state : ρ) (scene : Scene σ) :
    (Except Fault Progress × ρ) × Scene σ :=
  let resumed := backend.resume state scene
  ((resumed.answer, resumed.state), resumed.scene)

/-- Destroying, as an action. -/
def Backend.destruction (backend : Backend ρ σ) (state : ρ) (scene : Scene σ) : Unit × Scene σ :=
  ((), backend.destroy state scene)

/-- Coroutines in these states act alike when they are resumed and when they are destroyed, and
are in such a state again after they were resumed, whether they wait, have ended or have faulted. -/
structure Backend.Alike (own : ρ → Prop) (same : σ → τ → Prop) (backend : Backend ρ σ)
    (other : Backend ρ τ) : Prop where
  resume : ∀ state, own state →
    ActsAlike same (backend.resumption state) (other.resumption state)
  own_resume : ∀ state scene, own state → own (backend.resume state scene).state
  destroy : ∀ state, own state →
    ActsAlike same (backend.destruction state) (other.destruction state)

/-- Programs act alike when they begin coroutines, and begin them in these states. -/
structure Program.Alike (own : ρ → Prop) (same : σ → τ → Prop) (constants : Constants)
    (program : Program ρ σ) (other : Program ρ τ) : Prop where
  start : ∀ workgroup subgroups, ActsAlike same (program.start constants workgroup subgroups)
    (other.start constants workgroup subgroups)
  own_start : ∀ workgroup subgroups scene state,
    (program.start constants workgroup subgroups scene).1 = .ok state → own state

/-- The same context for another program. -/
def Context.reprogram (context : Context ρ σ) (program : Option (Program ρ τ)) : Context ρ τ :=
  ⟨context.storage, context.threads, context.hasBarriers, context.memorySize, context.workgroups,
    program, context.constants⟩

section Reprogram

variable (context : Context ρ σ) (program : Option (Program ρ τ))

@[simp] theorem Context.program_reprogram : (context.reprogram program).program = program := rfl

@[simp] theorem Context.constants_reprogram :
    (context.reprogram program).constants = context.constants := rfl

@[simp] theorem Context.memorySize_reprogram :
    (context.reprogram program).memorySize = context.memorySize := rfl

@[simp] theorem Context.coroutineCount_reprogram :
    (context.reprogram program).coroutineCount = context.coroutineCount := rfl

@[simp] theorem Context.coroutinePart_reprogram :
    (context.reprogram program).coroutinePart = context.coroutinePart := rfl

@[simp] theorem Context.shareAt_reprogram :
    (context.reprogram program).shareAt = context.shareAt := rfl

@[simp] theorem Context.shareSize_reprogram :
    (context.reprogram program).shareSize = context.shareSize := rfl

end Reprogram

namespace Run

/-- The same has happened on both sides since these histories. -/
structure Coupled (own : ρ → Prop) (same : σ → τ → Prop) (past past' : List Event)
    (run : Run ρ σ) (run' : Run ρ τ) : Prop where
  thread_eq : run'.thread = run.thread
  queued : run.thread.QueuesOnly own
  shared : same run.shared run'.shared
  log_eq : ∃ more, run.log = past ++ more ∧ run'.log = past' ++ more

/-- The answers are the same, and the runs still coupled. -/
def InStep {α : Type} (own : ρ → Prop) (same : σ → τ → Prop) (past past' : List Event)
    (outcome : α × Run ρ σ) (outcome' : α × Run ρ τ) : Prop :=
  outcome'.1 = outcome.1 ∧ Coupled own same past past' outcome.2 outcome'.2

theorem InStep.exists_eq {α : Type} {own : ρ → Prop} {same : σ → τ → Prop}
    {past past' : List Event} {outcome : α × Run ρ σ} {outcome' : α × Run ρ τ}
    (h : InStep own same past past' outcome outcome') :
    ∃ answer after after', outcome = (answer, after) ∧ outcome' = (answer, after')
      ∧ Coupled own same past past' after after' :=
  ⟨outcome.1, outcome.2, outcome'.2, rfl, Prod.ext h.1 rfl, h.2⟩

/-- What becomes of a coroutine that was resumed depends on its answer, and not on what it has done
to the scene. -/
theorem resume_eq (backend : Backend ρ σ) (run : Run ρ σ) (coroutine : Coroutine ρ) :
    run.resume backend coroutine =
      let acted := run.act (backend.resumption coroutine.state)
      let noted := acted.2.record (.resumed coroutine.ticket acted.1.1)
      let coroutine := { coroutine with state := acted.1.2 }
      match acted.1.1 with
      | .error fault => (.error fault, noted.destroy backend coroutine)
      | .ok .waiting => noted.enqueue backend coroutine
      | .ok .ended => (.ok (), noted.destroy backend coroutine) :=
  rfl

namespace Coupled

variable {own : ρ → Prop} {same : σ → τ → Prop} {past past' : List Event} {run : Run ρ σ}
  {run' : Run ρ τ}

theorem refl_of (hthread : run'.thread = run.thread) (hqueued : run.thread.QueuesOnly own)
    (hshared : same run.shared run'.shared) : Coupled own same run.log run'.log run run' :=
  ⟨hthread, hqueued, hshared, [], (List.append_nil _).symm, (List.append_nil _).symm⟩

/-! ## Single steps -/

theorem record (h : Coupled own same past past' run run') (event : Event) :
    Coupled own same past past' (run.record event) (run'.record event) := by
  obtain ⟨more, hlog, hlog'⟩ := h.log_eq
  refine ⟨h.thread_eq, h.queued, h.shared, more ++ [event], ?_, ?_⟩
  · rw [log_record, hlog, List.append_assoc]
  · rw [log_record, hlog', List.append_assoc]

/-- The thread may be put in another state on both sides. -/
theorem withThread (h : Coupled own same past past' run run') {thread : Thread ρ}
    (hqueued : thread.QueuesOnly own) :
    Coupled own same past past' { run with thread } { run' with thread } :=
  ⟨rfl, hqueued, h.shared, h.log_eq⟩

theorem withQueue (h : Coupled own same past past' run run') {queue : Ring (Coroutine ρ)}
    (hqueued : ∀ coroutine ∈ queue.slotOrder, own coroutine.state) :
    Coupled own same past past' (run.withQueue queue) (run'.withQueue queue) := by
  unfold Run.withQueue
  rw [h.thread_eq]
  exact h.withThread hqueued

/-- What a coroutine is taken from has only coroutines that were queued before. -/
theorem popped (h : Coupled own same past past' run run') {found : Option (Coroutine ρ)}
    {queue : Ring (Coroutine ρ)} (hpop : run.thread.queue.pop = .ok (found, queue)) :
    Coupled own same past past' (run.withQueue queue) (run'.withQueue queue) :=
  h.withQueue fun coroutine hmem => h.queued coroutine (Ring.mem_slotOrder_pop hpop hmem)

theorem act {α : Type} (h : Coupled own same past past' run run') {action : Scene σ → α × Scene σ}
    {other : Scene τ → α × Scene τ} (hacts : ActsAlike same action other) :
    InStep own same past past' (run.act action) (run'.act other) := by
  obtain ⟨thread, shared, events⟩ := run
  obtain ⟨thread', shared', events'⟩ := run'
  -- the threads are equal, so both actions find the same bytes
  obtain rfl : thread' = thread := h.thread_eq
  obtain ⟨hanswer, hmemory, hshared⟩ := hacts thread'.memory.bytes shared shared' h.shared
  refine ⟨hanswer, ?_, h.queued, hshared, h.log_eq⟩
  simp only [Run.act, hmemory]

variable {backend : Backend ρ σ} {other : Backend ρ τ} {coroutine : Coroutine ρ}

theorem destroy (h : Coupled own same past past' run run') (halike : backend.Alike own same other)
    (hown : own coroutine.state) :
    Coupled own same past past' (run.destroy backend coroutine) (run'.destroy other coroutine) :=
  (h.act (halike.destroy coroutine.state hown)).2.record _

theorem enqueue (h : Coupled own same past past' run run') (halike : backend.Alike own same other)
    (hown : own coroutine.state) :
    InStep own same past past' (run.enqueue backend coroutine) (run'.enqueue other coroutine) := by
  unfold Run.enqueue
  rw [h.thread_eq]
  cases hpush : run.thread.queue.push coroutine with
  | error fault => exact ⟨rfl, h.destroy halike hown⟩
  | ok pushed =>
      obtain ⟨ring, growth⟩ := pushed
      have hqueued : ∀ queued ∈ ring.slotOrder, own queued.state := by
        intro queued hmem
        rcases Ring.mem_slotOrder_push hpush hmem with rfl | hold
        · exact hown
        · exact h.queued queued hold
      cases growth with
      | none => exact ⟨rfl, h.withQueue hqueued⟩
      | some growth => exact ⟨rfl, (h.withQueue hqueued).record _⟩

theorem resume (h : Coupled own same past past' run run') (halike : backend.Alike own same other)
    (hown : own coroutine.state) :
    InStep own same past past' (run.resume backend coroutine) (run'.resume other coroutine) := by
  obtain ⟨⟨answer, state⟩, after, after', hact, hact', hafter⟩ :=
    (h.act (halike.resume coroutine.state hown)).exists_eq
  have hstate : state = (backend.resume coroutine.state
      ⟨run.thread.memory.bytes, run.shared⟩).state :=
    congrArg (fun outcome => outcome.1.2) hact.symm
  have hown' : own state := hstate ▸ halike.own_resume coroutine.state _ hown
  rw [resume_eq, resume_eq, hact, hact']
  dsimp only
  have hnoted := hafter.record (.resumed coroutine.ticket answer)
  rcases answer with fault | (_ | _)
  · exact ⟨rfl, hnoted.destroy halike hown'⟩
  · exact hnoted.enqueue halike hown'
  · exact ⟨rfl, hnoted.destroy halike hown'⟩

variable {constants : Constants} {program : Program ρ σ} {program' : Program ρ τ}

theorem spawn (h : Coupled own same past past' run run') (halike : backend.Alike own same other)
    (hprogram : program.Alike own same constants program') (workgroup : Coord)
    (subgroups : Subgroups) :
    InStep own same past past' (run.spawn backend program constants workgroup subgroups)
      (run'.spawn other program' constants workgroup subgroups) := by
  obtain ⟨answer, after, after', hact, hact', hafter⟩ :=
    (h.act (hprogram.start workgroup subgroups)).exists_eq
  unfold Run.spawn
  rw [hact, hact']
  cases answer with
  | error fault => exact ⟨rfl, hafter⟩
  | ok state =>
      have hown : own state :=
        hprogram.own_start workgroup subgroups ⟨run.thread.memory.bytes, run.shared⟩ state
          (congrArg Prod.fst hact)
      obtain ⟨thread, shared, events⟩ := after
      obtain ⟨thread', shared', events'⟩ := after'
      -- and equal threads give the coroutine the same number
      obtain rfl : thread' = thread := hafter.thread_eq
      have hqueued : ({ thread' with begun := thread'.begun + 1 } : Thread ρ).QueuesOnly own :=
        hafter.queued
      exact ((hafter.record (.begun ⟨thread'.begun, workgroup, subgroups⟩)).withThread
        hqueued).enqueue halike hown

/-! ## Loops -/

theorem spawnFrom (halike : backend.Alike own same other)
    (hprogram : program.Alike own same constants program') (workgroup : Coord)
    (part : Nat → Subgroups) (count : Nat) :
    ∀ {run : Run ρ σ} {run' : Run ρ τ} (index : Nat), Coupled own same past past' run run' →
      InStep own same past past'
        (run.spawnFrom backend program constants workgroup part index count)
        (run'.spawnFrom other program' constants workgroup part index count) := by
  induction count with
  | zero => exact fun _ h => ⟨rfl, h⟩
  | succ count ih =>
      intro run run' index h
      obtain ⟨answer, after, after', hspawn, hspawn', hafter⟩ :=
        (h.spawn halike hprogram workgroup (part index)).exists_eq
      unfold Run.spawnFrom
      rw [hspawn, hspawn']
      cases answer with
      | error fault => exact ⟨rfl, hafter⟩
      | ok value => exact ih (index + 1) hafter

end Coupled

/-- The recursion is that of the loop. -/
theorem Coupled.drain {own : ρ → Prop} {same : σ → τ → Prop} {past past' : List Event}
    {run : Run ρ σ} {run' : Run ρ τ} {backend : Backend ρ σ} {other : Backend ρ τ}
    (h : Coupled own same past past' run run') (halike : backend.Alike own same other)
    (count : Nat) :
    InStep own same past past' (run.drain backend count) (run'.drain other count) := by
  rw [Run.drain, Run.drain, h.thread_eq]
  cases hpop : run.thread.queue.pop with
  | error fault => exact ⟨rfl, h⟩
  | ok popped =>
      obtain ⟨found, ring⟩ := popped
      have htaken := h.popped hpop
      cases found with
      | none => exact ⟨rfl, htaken⟩
      | some coroutine =>
          have hown := h.queued coroutine (Ring.mem_slotOrder_of_pop hpop)
          by_cases hroom : count + 1 < word
          · obtain ⟨answer, after, after', hresume, hresume', hafter⟩ :=
              (htaken.resume halike hown).exists_eq
            simp only [dif_pos hroom, hresume, hresume']
            cases answer with
            | error fault => exact ⟨rfl, hafter⟩
            | ok value => exact hafter.drain halike (count + 1)
          · simp only [dif_neg hroom]
            exact ⟨rfl, htaken.destroy halike hown⟩
termination_by word - count
decreasing_by omega

/-- So is this one. -/
theorem Coupled.discard {own : ρ → Prop} {same : σ → τ → Prop} {past past' : List Event}
    {run : Run ρ σ} {run' : Run ρ τ} {backend : Backend ρ σ} {other : Backend ρ τ}
    (h : Coupled own same past past' run run') (halike : backend.Alike own same other) :
    InStep own same past past' (run.discard backend) (run'.discard other) := by
  have hpops : run'.thread.queue.pop = run.thread.queue.pop := by rw [h.thread_eq]
  cases hpop : run.thread.queue.pop with
  | error fault =>
      rw [discard_of_pop_error hpop, discard_of_pop_error (hpops.trans hpop)]
      exact ⟨rfl, h⟩
  | ok popped =>
      obtain ⟨found, ring⟩ := popped
      have htaken := h.popped hpop
      cases found with
      | none =>
          rw [discard_of_pop_none hpop, discard_of_pop_none (hpops.trans hpop)]
          exact ⟨rfl, htaken⟩
      | some coroutine =>
          rw [discard_of_pop_some hpop, discard_of_pop_some (hpops.trans hpop)]
          have hown := h.queued coroutine (Ring.mem_slotOrder_of_pop hpop)
          exact (htaken.destroy halike hown).discard halike
termination_by run.thread.queue.occupied
decreasing_by exact Ring.occupied_pop hpop

namespace Coupled

variable {own : ρ → Prop} {same : σ → τ → Prop} {past past' : List Event} {run : Run ρ σ}
  {run' : Run ρ τ}
  {backend : Backend ρ σ} {other : Backend ρ τ} {program : Program ρ σ} {program' : Program ρ τ}

theorem reserveMemory (h : Coupled own same past past' run run') (size : Nat) :
    InStep own same past past' (run.reserveMemory size) (run'.reserveMemory size) := by
  unfold Run.reserveMemory
  rw [h.thread_eq]
  cases alignUp size memoryAlign with
  | error fault => exact ⟨rfl, h⟩
  | ok length =>
      dsimp only
      cases run.thread.memory.reserve length with
      | error fault => exact ⟨rfl, h⟩
      | ok reserved =>
          obtain ⟨grown, memory⟩ := reserved
          cases grown with
          | false => exact ⟨rfl, h⟩
          | true =>
              have hqueued : ({ run.thread with memory } : Thread ρ).QueuesOnly own := h.queued
              exact ⟨rfl, (h.withThread hqueued).record _⟩

/-! ## A dispatch -/

variable {context : Context ρ σ}

theorem runWorkgroup (h : Coupled own same past past' run run')
    (halike : backend.Alike own same other)
    (hprogram : program.Alike own same context.constants program') (stats : Stats)
    (workgroup : Coord) :
    InStep own same past past' (context.runWorkgroup backend program stats run workgroup)
      ((context.reprogram (some program')).runWorkgroup other program' stats run' workgroup) := by
  unfold Context.runWorkgroup
  cases Checked.add word stats.workgroups 1 with
  | error fault => exact ⟨rfl, h⟩
  | ok workgroups =>
      obtain ⟨answer, mid, mid', hspawn, hspawn', hmid⟩ :=
        (spawnFrom halike hprogram workgroup context.coroutinePart context.coroutineCount 0
          h).exists_eq
      -- the context for the other program has all but the program in common
      simp only [Context.constants_reprogram, Context.coroutineCount_reprogram,
        Context.coroutinePart_reprogram, hspawn, hspawn']
      cases answer with
      | error fault => exact ⟨rfl, hmid⟩
      | ok value =>
          dsimp only
          cases Checked.add word stats.coroutines context.coroutineCount with
          | error fault => exact ⟨rfl, hmid⟩
          | ok coroutines =>
              obtain ⟨total, last, last', hdrain, hdrain', hlast⟩ :=
                (hmid.drain halike stats.resumptions).exists_eq
              simp only [hdrain, hdrain']
              cases total with
              | error fault => exact ⟨rfl, hlast⟩
              | ok total => exact ⟨rfl, hlast⟩

theorem runFrom (halike : backend.Alike own same other)
    (hprogram : program.Alike own same context.constants program') (thread count : Nat) :
    ∀ {run : Run ρ σ} {run' : Run ρ τ} (stats : Stats) (place : Nat),
      Coupled own same past past' run run' →
      InStep own same past past' (context.runFrom backend program thread stats run place count)
        ((context.reprogram (some program')).runFrom other program' thread stats run' place
          count) := by
  induction count with
  | zero => exact fun _ _ h => ⟨rfl, h⟩
  | succ count ih =>
      intro run run' stats place h
      obtain ⟨answer, mid, mid', hfirst, hfirst', hmid⟩ :=
        (h.runWorkgroup halike hprogram stats (context.shareAt thread place)).exists_eq
      unfold Context.runFrom
      simp only [Context.shareAt_reprogram, hfirst, hfirst']
      cases answer with
      | error fault => exact ⟨rfl, hmid⟩
      | ok stats => exact ih stats (place + 1) hmid

/-- **Dispatches in step.** Programs and coroutines that act alike make no difference to a
thread. -/
theorem dispatch (h : Coupled own same past past' run run') (halike : backend.Alike own same other)
    (hsome : context.program = some program)
    (hprogram : program.Alike own same context.constants program') (thread : Nat) :
    InStep own same past past' (context.dispatch backend thread run)
      ((context.reprogram (some program')).dispatch other thread run') := by
  unfold Context.dispatch
  rw [hsome, Context.program_reprogram]
  dsimp only
  -- what is checked first is the same in both contexts
  by_cases hthread : context.threads ≤ thread
  · have hthread' : (context.reprogram (some program')).threads ≤ thread := hthread
    rw [if_pos hthread, if_pos hthread']
    exact ⟨rfl, h⟩
  have hthread' : ¬ (context.reprogram (some program')).threads ≤ thread := hthread
  rw [if_neg hthread, if_neg hthread']
  simp only [Context.memorySize_reprogram, Context.shareSize_reprogram]
  obtain ⟨answer, cleared, cleared', hdiscard, hdiscard', hcleared⟩ := (h.discard halike).exists_eq
  simp only [hdiscard, hdiscard']
  cases answer with
  | error fault => exact ⟨rfl, hcleared⟩
  | ok value =>
      obtain ⟨answer, ready, ready', hreserve, hreserve', hready⟩ :=
        (hcleared.reserveMemory context.memorySize).exists_eq
      simp only [hreserve, hreserve']
      cases answer with
      | error fault => exact ⟨rfl, hready⟩
      | ok value =>
          obtain ⟨answer, last, last', hshare, hshare', hlast⟩ :=
            (runFrom halike hprogram thread (context.shareSize thread) .zero 0 hready).exists_eq
          simp only [hshare, hshare']
          cases answer with
          | error fault => exact ⟨rfl, hlast⟩
          | ok stats => exact ⟨rfl, hlast.record _⟩

end Coupled

end Run

end GridDispatch
