/-
The steps of a run, seen without rings.

What a thread does is decided by the coroutines in its queue, in their order, by the
scene, and by how many coroutines were begun; where in the ring the queue happens to
lie has no part in it. `View` is that much of a run, together with its history, of
which only the events about coroutines are kept: when rings and blocks grow is another
matter. `Run.Shows` says that a run has a view, which includes that its ring is sound.

For every step there is one lemma here that says which view it leads to and what it
answers. The proofs about schedules, life cycles and recovery cite these and never open
the steps again. Putting a coroutine into the queue is the only step that depends on
the ring, since growing can fail when the slots can no longer be counted; it comes in
two forms, one for queues of a length that is known (`Shows.enqueue_eq`) and one for
any (`Shows.enqueue_cases`). Whether memory can be had does not depend on what the thread
has already, as a block that is there is never longer than a block may be; hence
`memoryFault`, which is a function of the size alone.
-/
import GridDispatch.Proofs.RingWindow
import GridDispatch.Schedule.Dispatch

set_option autoImplicit false

namespace GridDispatch

/-- Whether an event is about a coroutine. -/
def Event.ofCoroutine : Event → Bool
  | .begun _ | .resumed _ _ | .destroyed _ => true
  | _ => false

/-! ## Workgroup memory -/

/-- The length of the longest block of workgroup memory. -/
abbrev maxMemory : Nat := Ring.halfWord - memoryAlign

/-- A block that a thread can have for its workgroup memory. -/
structure Block.Sound (block : Block) : Prop where
  align_eq : block.align = memoryAlign
  size_le : block.size ≤ maxMemory

/-- Which blocks of workgroup memory can be allocated. -/
theorem Block.allocate_eq (length : Nat) : Block.allocate length memoryAlign
    = if length ≤ maxMemory then .ok ⟨Bytes.zeros length, memoryAlign⟩
      else .error (.invalidAllocation length memoryAlign) := by
  have hpower : isPowerOfTwo memoryAlign = true := by decide
  have hvalid : validLayout length memoryAlign = decide (length ≤ maxMemory) := by
    rw [validLayout, hpower, Bool.true_and]
  by_cases hzero : length = 0
  · subst hzero
    rw [allocate, if_pos rfl, empty, if_pos hpower, if_pos (Nat.zero_le _)]
    rfl
  · rw [allocate, if_neg hzero, hvalid]
    simp only [decide_eq_true_eq]

/-- Why workgroup memory of this size cannot be had, if it cannot. -/
def memoryFault (size : Nat) : Option Fault :=
  match alignUp size memoryAlign with
  | .error fault => some fault
  | .ok length => if length ≤ maxMemory then none else some (.invalidAllocation length memoryAlign)

theorem memoryFault_eq_none {size : Nat} (h : memoryFault size = none) :
    ∃ length, alignUp size memoryAlign = .ok length ∧ length ≤ maxMemory := by
  cases halign : alignUp size memoryAlign with
  | error fault =>
      rw [memoryFault, halign] at h
      cases h
  | ok length =>
      by_cases hle : length ≤ maxMemory
      · exact ⟨length, rfl, hle⟩
      · rw [memoryFault, halign] at h
        dsimp only at h
        rw [if_neg hle] at h
        cases h

theorem memoryFault_eq_some {size : Nat} {fault : Fault} (h : memoryFault size = some fault) :
    alignUp size memoryAlign = .error fault
      ∨ ∃ length, alignUp size memoryAlign = .ok length ∧ ¬ length ≤ maxMemory
        ∧ fault = .invalidAllocation length memoryAlign := by
  cases halign : alignUp size memoryAlign with
  | error fault' =>
      rw [memoryFault, halign] at h
      cases h
      exact .inl rfl
  | ok length =>
      rw [memoryFault, halign] at h
      dsimp only at h
      by_cases hle : length ≤ maxMemory
      · rw [if_pos hle] at h
        cases h
      · rw [if_neg hle] at h
        cases h
        exact .inr ⟨length, rfl, hle, rfl⟩

/-- The scene after an action: the memory keeps its length, whatever was answered. -/
def Scene.keep {σ : Type} (before after : Scene σ) : Scene σ :=
  ⟨after.memory.fit before.memory.size, after.shared⟩

/-! ## Views -/

/-- What a run shows of itself. -/
structure View (ρ σ : Type) where
  /-- The coroutines in the queue, from front to back. -/
  queue : List (Coroutine ρ)
  scene : Scene σ
  /-- The number of coroutines begun on the thread. -/
  begun : Nat
  /-- The events about coroutines so far. -/
  history : List Event

namespace View

variable {ρ σ : Type}

/-- The names of the queued coroutines. -/
def tickets (view : View ρ σ) : List Ticket :=
  view.queue.map Coroutine.ticket

/-- After an action of a program or a coroutine. -/
def adopt (view : View ρ σ) (scene : Scene σ) : View ρ σ :=
  { view with scene := view.scene.keep scene }

/-- After an event about a coroutine. -/
def note (view : View ρ σ) (event : Event) : View ρ σ :=
  { view with history := view.history ++ [event] }

/-- After a coroutine was put into the queue. -/
def enqueue (view : View ρ σ) (coroutine : Coroutine ρ) : View ρ σ :=
  { view with queue := view.queue ++ [coroutine] }

/-- After a coroutine that is not queued was destroyed. -/
def destroy (backend : Backend ρ σ) (view : View ρ σ) (coroutine : Coroutine ρ) : View ρ σ :=
  (view.adopt (backend.destroy coroutine.state view.scene)).note (.destroyed coroutine.ticket)

/-- After a coroutine was begun that is not queued yet. -/
def begin (view : View ρ σ) (ticket : Ticket) : View ρ σ :=
  { view.note (.begun ticket) with begun := view.begun + 1 }

/-- After all queued coroutines were destroyed, from the front. -/
def discard (backend : Backend ρ σ) (view : View ρ σ) : View ρ σ :=
  view.queue.foldl (destroy backend) { view with queue := [] }

@[simp] theorem tickets_enqueue (view : View ρ σ) (coroutine : Coroutine ρ) :
    (view.enqueue coroutine).tickets = view.tickets ++ [coroutine.ticket] :=
  List.map_append

/-- Destroying coroutines one after another is seen in the scene and the history only. -/
theorem foldl_destroy_eq (backend : Backend ρ σ) (list : List (Coroutine ρ)) :
    ∀ view : View ρ σ, list.foldl (destroy backend) view
      = { view with
          scene := (list.foldl (destroy backend) view).scene
          history := view.history ++ list.map fun coroutine => .destroyed coroutine.ticket } := by
  induction list with
  | nil =>
      intro view
      rw [List.map_nil, List.append_nil]
      rfl
  | cons coroutine rest ih =>
      intro view
      rw [List.foldl_cons, ih, List.map_cons, List.append_cons]
      rfl

@[simp] theorem queue_discard (backend : Backend ρ σ) (view : View ρ σ) :
    (view.discard backend).queue = [] := by
  rw [discard, foldl_destroy_eq]

@[simp] theorem begun_discard (backend : Backend ρ σ) (view : View ρ σ) :
    (view.discard backend).begun = view.begun := by
  rw [discard, foldl_destroy_eq]

theorem history_discard (backend : Backend ρ σ) (view : View ρ σ) :
    (view.discard backend).history = view.history ++ view.tickets.map .destroyed := by
  rw [discard, foldl_destroy_eq, tickets, List.map_map]
  rfl

end View

namespace Run

variable {ρ σ : Type}

/-- What coroutines see on this thread. -/
def scene (run : Run ρ σ) : Scene σ :=
  ⟨run.thread.memory.bytes, run.shared⟩

/-- The events about coroutines so far. -/
def history (run : Run ρ σ) : List Event :=
  run.events.toList.filter Event.ofCoroutine

/-- The run has this view, and its ring is sound. -/
structure Shows (run : Run ρ σ) (view : View ρ σ) : Prop where
  queue : run.thread.queue.Stores view.queue
  countable : run.thread.queue.capacity < word
  memory : run.thread.memory.Sound
  scene : run.scene = view.scene
  begun : run.thread.begun = view.begun
  history : run.history = view.history

/-- The view of a run, from its parts. -/
theorem Shows.of_stores {run : Run ρ σ} {queue : List (Coroutine ρ)}
    (h : run.thread.queue.Stores queue) (hcap : run.thread.queue.capacity < word)
    (hmemory : run.thread.memory.Sound) :
    run.Shows ⟨queue, run.scene, run.thread.begun, run.history⟩ :=
  ⟨h, hcap, hmemory, rfl, rfl, rfl⟩

variable {run : Run ρ σ} {view : View ρ σ}

/-- A queue with other contents. -/
theorem Shows.withQueue (h : run.Shows view) {ring : Ring (Coroutine ρ)}
    {queue : List (Coroutine ρ)} (hring : ring.Stores queue) (hcap : ring.capacity < word) :
    (run.withQueue ring).Shows { view with queue } :=
  ⟨hring, hcap, h.memory, h.scene, h.begun, h.history⟩

theorem history_record (run : Run ρ σ) (event : Event) :
    (run.record event).history = run.history ++ [event].filter Event.ofCoroutine := by
  rw [history, record, Array.toList_push, List.filter_append, history]

theorem history_record_other (run : Run ρ σ) {event : Event} (hof : event.ofCoroutine = false) :
    (run.record event).history = run.history := by
  rw [history_record, List.filter_singleton, hof]
  exact List.append_nil _

/-- An event about a coroutine enters the view. -/
theorem Shows.record (h : run.Shows view) {event : Event} (hof : event.ofCoroutine = true) :
    (run.record event).Shows (view.note event) := by
  refine ⟨h.queue, h.countable, h.memory, h.scene, h.begun, ?_⟩
  rw [history_record, h.history, List.filter_singleton, hof]
  rfl

/-- Any other event does not. -/
theorem Shows.record_other (h : run.Shows view) {event : Event}
    (hof : event.ofCoroutine = false) : (run.record event).Shows view := by
  refine ⟨h.queue, h.countable, h.memory, h.scene, h.begun, ?_⟩
  rw [history_record_other run hof, h.history]

/-- A queue with other contents, and what there is to say about its slots. -/
theorem Shows.withGrown (h : run.Shows view) {ring : Ring (Coroutine ρ)}
    {queue : List (Coroutine ρ)} (hring : ring.Stores queue) (hcap : ring.capacity < word)
    (growth : Option Growth) :
    ((run.withQueue ring).record? (growth.map .queueGrown)).Shows { view with queue } := by
  cases growth with
  | none => exact h.withQueue hring hcap
  | some growth => exact (h.withQueue hring hcap).record_other rfl

/-- An action answers what it answers in the scene, and the scene is all it changes. -/
theorem Shows.act {α : Type} (h : run.Shows view) (action : Scene σ → α × Scene σ) :
    (run.act action).1 = (action view.scene).1
      ∧ (run.act action).2.Shows (view.adopt (action view.scene).2) := by
  have hscene : run.scene = view.scene := h.scene
  have hafter : (run.act action).2.scene = run.scene.keep (action run.scene).2 := rfl
  have hsize : (run.act action).2.thread.memory.size = run.thread.memory.size :=
    Bytes.size_fit _ _
  refine ⟨by rw [← hscene]; rfl, h.queue, h.countable, ⟨h.memory.align_eq, ?_⟩, ?_, h.begun,
    h.history⟩
  · rw [hsize]
    exact h.memory.size_le
  · rw [hafter, hscene]
    rfl

theorem Shows.destroy (h : run.Shows view) (backend : Backend ρ σ) (coroutine : Coroutine ρ) :
    (run.destroy backend coroutine).Shows (view.destroy backend coroutine) :=
  (h.act fun scene => ((), backend.destroy coroutine.state scene)).2.record rfl

/-! ## Queueing -/

/-- A queue of a length that is known can always take one more. -/
theorem Shows.enqueue_eq (h : run.Shows view) (backend : Backend ρ σ) (coroutine : Coroutine ρ)
    (hlen : 2 * (view.queue.length + 1) < word) :
    ∃ after, run.enqueue backend coroutine = (.ok (), after)
      ∧ after.Shows (view.enqueue coroutine) := by
  obtain ⟨ring, hpush, hring, hcap⟩ := h.queue.push_eq coroutine h.countable hlen
  rw [enqueue, hpush]
  exact ⟨_, rfl, h.withGrown hring hcap _⟩

/-- Any other queue takes it, or the coroutine is destroyed. -/
theorem Shows.enqueue_cases (h : run.Shows view) (backend : Backend ρ σ)
    (coroutine : Coroutine ρ) :
    (∃ after, run.enqueue backend coroutine = (.ok (), after)
        ∧ after.Shows (view.enqueue coroutine))
      ∨ ∃ fault after, run.enqueue backend coroutine = (.error fault, after)
        ∧ after.Shows (view.destroy backend coroutine) := by
  rw [enqueue]
  rcases h.queue.push_cases coroutine h.countable with
    ⟨ring, hpush, hring, -, hcap⟩ | ⟨fault, hpush⟩
  · rw [hpush]
    exact .inl ⟨_, rfl, h.withGrown hring hcap _⟩
  · rw [hpush]
    exact .inr ⟨fault, _, rfl, h.destroy backend coroutine⟩

/-! ## Beginning -/

variable {backend : Backend ρ σ} {program : Program ρ σ} {constants : Constants}
  {workgroup : Coord} {subgroups : Subgroups}

/-- A program that faults begins nothing. -/
theorem Shows.spawn_error (h : run.Shows view) (backend : Backend ρ σ) {fault : Fault}
    (hstart : (program.start constants workgroup subgroups view.scene).1 = .error fault) :
    ∃ after, run.spawn backend program constants workgroup subgroups = (.error fault, after)
      ∧ after.Shows (view.adopt (program.start constants workgroup subgroups view.scene).2) := by
  obtain ⟨hanswer, hshows⟩ := h.act (program.start constants workgroup subgroups)
  rw [spawn]
  generalize run.act (program.start constants workgroup subgroups) = acted at hanswer hshows
  obtain ⟨answer, after⟩ := acted
  obtain rfl : answer = .error fault := hanswer.trans hstart
  exact ⟨after, rfl, hshows⟩

/-- A program that answers begins a coroutine with the next serial number, and what is left
is to queue it. -/
theorem Shows.spawn_ok (h : run.Shows view) (backend : Backend ρ σ) {state : ρ}
    (hstart : (program.start constants workgroup subgroups view.scene).1 = .ok state) :
    ∃ ready : Run ρ σ, run.spawn backend program constants workgroup subgroups
        = ready.enqueue backend ⟨⟨view.begun, workgroup, subgroups⟩, state⟩
      ∧ ready.Shows ((view.adopt (program.start constants workgroup subgroups view.scene).2).begin
          ⟨view.begun, workgroup, subgroups⟩) := by
  obtain ⟨hanswer, hshows⟩ := h.act (program.start constants workgroup subgroups)
  rw [spawn]
  generalize run.act (program.start constants workgroup subgroups) = acted at hanswer hshows
  obtain ⟨answer, after⟩ := acted
  obtain rfl : answer = .ok state := hanswer.trans hstart
  -- the name is given by the thread, whose counter the view knows
  have hbegun : after.thread.begun = view.begun := hshows.begun
  dsimp only at hshows ⊢
  rw [Run.record]
  dsimp only
  rw [hbegun]
  have hnoted : (after.record (.begun ⟨view.begun, workgroup, subgroups⟩)).Shows _ :=
    hshows.record rfl
  exact ⟨_, rfl, hnoted.queue, hnoted.countable, hnoted.memory, hnoted.scene, rfl, hnoted.history⟩

/-! ## Resuming -/

variable {coroutine : Coroutine ρ}

/-- Resuming lets the coroutine act and notes its answer, on which the rest depends. -/
theorem Shows.resume_eq (h : run.Shows view) (backend : Backend ρ σ) (coroutine : Coroutine ρ) :
    let resumed := backend.resume coroutine.state view.scene
    ∃ acted : Run ρ σ,
      acted.Shows ((view.adopt resumed.scene).note (.resumed coroutine.ticket resumed.answer))
      ∧ run.resume backend coroutine = match resumed.answer with
        | .error fault =>
          (.error fault, acted.destroy backend { coroutine with state := resumed.state })
        | .ok .waiting => acted.enqueue backend { coroutine with state := resumed.state }
        | .ok .ended =>
          (.ok (), acted.destroy backend { coroutine with state := resumed.state }) := by
  -- as an action it answers a pair, of what the coroutine answers and its next state
  obtain ⟨hanswer, hshows⟩ := h.act fun scene =>
    (((backend.resume coroutine.state scene).answer, (backend.resume coroutine.state scene).state),
      (backend.resume coroutine.state scene).scene)
  rw [resume]
  dsimp only at hanswer hshows ⊢
  generalize (run.act fun scene =>
    (((backend.resume coroutine.state scene).answer, (backend.resume coroutine.state scene).state),
      (backend.resume coroutine.state scene).scene)) = acted at hanswer hshows ⊢
  obtain ⟨answered, after⟩ := acted
  dsimp only at hanswer hshows ⊢
  subst hanswer
  exact ⟨_, hshows.record rfl, rfl⟩

variable {rest : List (Coroutine ρ)} {count : Nat}

/-- An empty queue is drained. -/
theorem Shows.drain_nil (h : run.Shows view) (backend : Backend ρ σ) (hqueue : view.queue = [])
    (count : Nat) :
    ∃ after, run.drain backend count = (.ok count, after) ∧ after.Shows view := by
  have hring := hqueue ▸ h.queue
  rw [drain, hring.pop_nil]
  exact ⟨_, rfl, h⟩

/-- Draining resumes the front coroutine and goes on. -/
theorem Shows.drain_cons (h : run.Shows view) (backend : Backend ρ σ)
    (hqueue : view.queue = coroutine :: rest) (hroom : count + 1 < word) :
    ∃ taken : Run ρ σ, taken.Shows { view with queue := rest }
      ∧ run.drain backend count = match taken.resume backend coroutine with
        | (.error fault, run) => (.error fault, run)
        | (.ok (), run) => run.drain backend (count + 1) := by
  obtain ⟨ring, hpop, hring, hcap⟩ := (hqueue ▸ h.queue).pop_cons h.countable
  refine ⟨run.withQueue ring, h.withQueue hring (hcap ▸ h.countable), ?_⟩
  rw [drain, hpop]
  exact dif_pos hroom

/-- Unless resumptions can no longer be counted. Then it is destroyed. -/
theorem Shows.drain_limit (h : run.Shows view) (backend : Backend ρ σ)
    (hqueue : view.queue = coroutine :: rest) (hroom : word ≤ count + 1) :
    ∃ after, run.drain backend count = (.error (.arithmetic .add), after)
      ∧ after.Shows ({ view with queue := rest }.destroy backend coroutine) := by
  obtain ⟨ring, hpop, hring, hcap⟩ := (hqueue ▸ h.queue).pop_cons h.countable
  rw [drain, hpop]
  dsimp only
  rw [dif_neg (Nat.not_lt.mpr hroom)]
  exact ⟨_, rfl, (h.withQueue hring (hcap ▸ h.countable)).destroy backend coroutine⟩

/-! ## Taking -/

/-- What is taken from the queue is its front coroutine. -/
theorem Shows.of_pop_some (h : run.Shows view) {queue : Ring (Coroutine ρ)}
    (hpop : run.thread.queue.pop = .ok (some coroutine, queue)) :
    ∃ rest, view.queue = coroutine :: rest
      ∧ (run.withQueue queue).Shows { view with queue := rest } := by
  cases hqueue : view.queue with
  | nil =>
      have hring := hqueue ▸ h.queue
      cases hring.pop_nil.symm.trans hpop
  | cons front rest =>
      obtain ⟨ring, hfront, hring, hcap⟩ := (hqueue ▸ h.queue).pop_cons h.countable
      cases hfront.symm.trans hpop
      exact ⟨rest, rfl, h.withQueue hring (hcap ▸ h.countable)⟩

/-- If nothing is, then nothing changes. -/
theorem Shows.of_pop_none (h : run.Shows view) {queue : Ring (Coroutine ρ)}
    (hpop : run.thread.queue.pop = .ok (none, queue)) : (run.withQueue queue).Shows view := by
  cases hqueue : view.queue with
  | nil =>
      have hring := hqueue ▸ h.queue
      cases hring.pop_nil.symm.trans hpop
      exact h
  | cons front rest =>
      obtain ⟨ring, hfront, -, -⟩ := (hqueue ▸ h.queue).pop_cons h.countable
      cases hfront.symm.trans hpop

/-! ## Giving up -/

theorem discard_of_pop_error {fault : Fault} (hpop : run.thread.queue.pop = .error fault) :
    run.discard backend = (.error fault, run) := by
  rw [discard]
  split
  · next heq =>
      cases hpop.symm.trans heq
      rfl
  · next heq => cases hpop.symm.trans heq
  · next heq => cases hpop.symm.trans heq

theorem discard_of_pop_none {queue : Ring (Coroutine ρ)}
    (hpop : run.thread.queue.pop = .ok (none, queue)) :
    run.discard backend = (.ok (), run.withQueue queue) := by
  rw [discard]
  split
  · next heq => cases hpop.symm.trans heq
  · next heq =>
      cases hpop.symm.trans heq
      rfl
  · next heq => cases hpop.symm.trans heq

theorem discard_of_pop_some {queue : Ring (Coroutine ρ)}
    (hpop : run.thread.queue.pop = .ok (some coroutine, queue)) :
    run.discard backend = ((run.withQueue queue).destroy backend coroutine).discard backend := by
  rw [discard]
  split
  · next heq => cases hpop.symm.trans heq
  · next heq => cases hpop.symm.trans heq
  · next heq =>
      cases hpop.symm.trans heq
      rfl

/-- Discarding never faults. -/
theorem Shows.discard_eq (h : run.Shows view) (backend : Backend ρ σ) :
    ∃ after, run.discard backend = (.ok (), after) ∧ after.Shows (view.discard backend) := by
  obtain ⟨queue, scene, begun, history⟩ := view
  induction queue generalizing run scene history with
  | nil =>
      rw [discard_of_pop_none (Ring.Stores.pop_nil h.queue)]
      exact ⟨_, rfl, h⟩
  | cons coroutine rest ih =>
      obtain ⟨ring, hpop, hring, hcap⟩ := h.queue.pop_cons h.countable
      have htaken := (h.withQueue hring (hcap ▸ h.countable)).destroy backend coroutine
      rw [discard_of_pop_some hpop]
      exact ih _ _ htaken

theorem Shows.foldl_destroy (h : run.Shows view) (backend : Backend ρ σ)
    (list : List (Coroutine ρ)) :
    (list.foldl (Run.destroy backend) run).Shows (list.foldl (View.destroy backend) view) := by
  induction list generalizing run view with
  | nil => exact h
  | cons coroutine rest ih => exact ih (h.destroy backend coroutine)

/-- Releasing a thread destroys the queued coroutines, each of them once. -/
theorem Shows.release (h : run.Shows view) (backend : Backend ρ σ) :
    ∃ (order : List (Coroutine ρ)) (scene : Scene σ), order.Perm view.queue
      ∧ (run.release backend).Shows ⟨[], scene, view.begun,
          view.history ++ order.map fun coroutine => .destroyed coroutine.ticket⟩ := by
  -- the slots are given up one by one while the ring is already empty
  have hempty : (run.withQueue .empty).Shows { view with queue := [] } :=
    h.withQueue Ring.stores_empty (show 0 < word by decide)
  have hshows := hempty.foldl_destroy backend run.thread.queue.slotOrder
  rw [View.foldl_destroy_eq] at hshows
  generalize hafter : run.thread.queue.slotOrder.foldl (Run.destroy backend)
    (run.withQueue .empty) = after at hshows
  have hreleased : Run.Shows
      { after with thread := { after.thread with memory := after.thread.memory.release } }
      ⟨[], ⟨#[], after.shared⟩, view.begun, view.history
        ++ run.thread.queue.slotOrder.map fun coroutine => .destroyed coroutine.ticket⟩ :=
    ⟨hshows.queue, hshows.countable, ⟨hshows.memory.align_eq, Nat.zero_le _⟩, rfl, hshows.begun,
      hshows.history⟩
  refine ⟨run.thread.queue.slotOrder, ⟨#[], after.shared⟩, h.queue.slotOrder_perm, ?_⟩
  rw [Run.release, hafter]
  exact hreleased.record_other rfl

/-! ## Memory -/

/-- Memory that can be had is made long enough. Nothing but its bytes changes. -/
theorem Shows.reserveMemory_ok (h : run.Shows view) {size : Nat} (hsize : memoryFault size = none) :
    ∃ after bytes, run.reserveMemory size = (.ok (), after)
      ∧ after.Shows { view with scene := ⟨bytes, view.scene.shared⟩ } := by
  obtain ⟨length, halign, hle⟩ := memoryFault_eq_none hsize
  rw [reserveMemory, halign]
  dsimp only
  rw [Block.reserve]
  by_cases hfits : length ≤ run.thread.memory.size
  · rw [if_pos hfits]
    exact ⟨run, view.scene.memory, rfl, h⟩
  -- a new block takes the place of the old one, whose bytes are lost
  · rw [if_neg hfits, h.memory.align_eq, Block.allocate_eq, if_pos hle]
    have hgrown : Run.Shows { run with thread :=
        { run.thread with memory := ⟨Bytes.zeros length, memoryAlign⟩ } }
        { view with scene := ⟨Bytes.zeros length, view.scene.shared⟩ } := by
      refine ⟨h.queue, h.countable, ⟨rfl, ?_⟩, ?_, h.begun, h.history⟩
      · exact Nat.le_trans (Nat.le_of_eq (Bytes.size_zeros length)) hle
      · exact congrArg (Scene.mk _) (congrArg Scene.shared h.scene)
    exact ⟨_, Bytes.zeros length, rfl, hgrown.record_other rfl⟩

/-- Memory that cannot be had leaves everything as it is. -/
theorem Shows.reserveMemory_error (h : run.Shows view) {size : Nat} {fault : Fault}
    (hsize : memoryFault size = some fault) :
    run.reserveMemory size = (.error fault, run) := by
  rcases memoryFault_eq_some hsize with halign | ⟨length, halign, hlong, rfl⟩
  · rw [reserveMemory, halign]
  -- the block that is there is shorter than this, so it cannot be kept
  · have hshort := h.memory.size_le
    have hreserve : run.thread.memory.reserve length
        = .error (.invalidAllocation length memoryAlign) := by
      rw [Block.reserve, if_neg (by omega), h.memory.align_eq, Block.allocate_eq, if_neg hlong]
    rw [reserveMemory, halign]
    dsimp only
    rw [hreserve]

/-! ## The beginning of a dispatch -/

variable {context : Context ρ σ} {thread : Nat}

/-- A dispatch that is accepted but does not get its memory has discarded the queue. -/
theorem Shows.dispatch_of_memoryFault (h : run.Shows view) (backend : Backend ρ σ)
    (hprogram : context.program = some program) (hindex : thread < context.threads)
    {fault : Fault} (hmemory : memoryFault context.memorySize = some fault) :
    ∃ after, context.dispatch backend thread run = (.error (.faulted fault), after)
      ∧ after.Shows (view.discard backend) := by
  obtain ⟨cleared, hdiscard, hcleared⟩ := h.discard_eq backend
  rw [Context.dispatch, hprogram]
  dsimp only
  rw [if_neg (Nat.not_le.mpr hindex), hdiscard]
  dsimp only
  rw [hcleared.reserveMemory_error hmemory]
  exact ⟨cleared, rfl, hcleared⟩

/-- One that gets its memory begins with an empty queue, and then runs its share. -/
theorem Shows.dispatch_of_memory (h : run.Shows view) (backend : Backend ρ σ)
    (hprogram : context.program = some program) (hindex : thread < context.threads)
    (hmemory : memoryFault context.memorySize = none) :
    ∃ ready bytes, (run.discard backend).2.reserveMemory context.memorySize = (.ok (), ready)
      ∧ ready.Shows
        { view.discard backend with scene := ⟨bytes, (view.discard backend).scene.shared⟩ }
      ∧ context.dispatch backend thread run
        = match context.runFrom backend program thread .zero ready 0 (context.shareSize thread) with
          | (.error fault, run) => (.error (.faulted fault), run)
          | (.ok stats, run) =>
            (.ok stats, run.record (.shareDone thread context.threads stats)) := by
  obtain ⟨cleared, hdiscard, hcleared⟩ := h.discard_eq backend
  obtain ⟨ready, bytes, hreserve, hready⟩ := hcleared.reserveMemory_ok hmemory
  rw [Context.dispatch, hprogram]
  dsimp only
  rw [if_neg (Nat.not_le.mpr hindex), hdiscard]
  dsimp only
  rw [hreserve]
  exact ⟨ready, bytes, rfl, hready, rfl⟩

end Run

end GridDispatch
