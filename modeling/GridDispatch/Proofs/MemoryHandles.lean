/-
Memory under live coroutines.

That the memory is never replaced or given up under a live coroutine is a fact about histories
(`MemoryEvents`). Here is what a coroutine has from it. It may rely on finding the memory as long
as it was when the coroutine was begun, at every resumption and when it is destroyed: whatever
can be shown of programs and coroutines under this assumption (`Trusting`) holds over all
histories. The invariant is that every queued coroutine may rely on the length the memory has now
(`Entrusted`). Steps keep it because they leave the length alone, and the length changes only
while nothing is queued.

The memory itself is handed over anew with every scene, so a coroutine cannot see another block
than the present one; its length is what it could have remembered. The last section lets
coroutines remember it, and none is ever disappointed.
-/
import GridDispatch.Proofs.MemoryEvents

set_option autoImplicit false

namespace GridDispatch

variable {ρ σ : Type}

/-! ## What a coroutine may rely on

A coroutine is described by what it keeps: `own length` of its state, while the memory has this
length, and `fine` of what it shares with others. It is trusting if it keeps both as long as it
finds the memory at the length it was begun with. -/

/-- Coroutines that find the memory as long as it was keep `own` and `fine`. -/
structure Backend.Trusting (backend : Backend ρ σ) (own : Nat → ρ → Prop) (fine : σ → Prop) :
    Prop where
  resume : ∀ state scene, own scene.memory.size state → fine scene.shared →
    own scene.memory.size (backend.resume state scene).state
      ∧ fine (backend.resume state scene).scene.shared
  destroy : ∀ state scene, own scene.memory.size state → fine scene.shared →
    fine (backend.destroy state scene).shared

/-- Coroutines are begun with `own` at the length of the memory. -/
def Program.Trusting (program : Program ρ σ) (own : Nat → ρ → Prop) (fine : σ → Prop) : Prop :=
  ∀ constants workgroup subgroups scene, fine scene.shared →
    fine (program.start constants workgroup subgroups scene).2.shared
      ∧ ∀ state, (program.start constants workgroup subgroups scene).1 = .ok state →
        own scene.memory.size state

/-- Dispatches are of trusting programs, and whatever else happens leaves `fine`. -/
def Operation.Trusting (own : Nat → ρ → Prop) (fine : σ → Prop) : Operation ρ σ → Prop
  | .dispatch context _ => ∀ program, context.program = some program → program.Trusting own fine
  | .release => True
  | .meanwhile shared => fine shared

/-- Every queued coroutine keeps `own` at the length the memory has now. -/
structure View.Entrusted (view : View ρ σ) (own : Nat → ρ → Prop) (fine : σ → Prop) : Prop where
  fine : fine view.scene.shared
  own : ∀ coroutine ∈ view.queue, own view.scene.memory.size coroutine.state

section

variable {own : Nat → ρ → Prop} {fine : σ → Prop} {backend : Backend ρ σ} {view : View ρ σ}
  {coroutine : Coroutine ρ}

namespace View

/-- Where nothing is queued, nothing relies on the memory. -/
theorem entrusted_of_empty (hqueue : view.queue = []) (hfine : fine view.scene.shared) :
    view.Entrusted own fine := by
  refine ⟨hfine, fun coroutine hmem => ?_⟩
  rw [hqueue] at hmem
  exact (List.not_mem_nil hmem).elim

@[simp] theorem size_adopt (view : View ρ σ) (scene : Scene σ) :
    (view.adopt scene).scene.memory.size = view.scene.memory.size :=
  Bytes.size_fit _ _

theorem Entrusted.adopt (h : view.Entrusted own fine) {scene : Scene σ}
    (hfine : fine scene.shared) :
    (view.adopt scene).Entrusted own fine := by
  refine ⟨hfine, fun coroutine hmem => ?_⟩
  rw [size_adopt]
  exact h.own coroutine hmem

theorem Entrusted.enqueue (h : view.Entrusted own fine)
    (hown : own view.scene.memory.size coroutine.state) :
    (view.enqueue coroutine).Entrusted own fine := by
  refine ⟨h.fine, fun other hmem => ?_⟩
  rcases List.mem_append.mp hmem with hmem | hmem
  · exact h.own other hmem
  · rw [List.mem_singleton.mp hmem]
    exact hown

theorem Entrusted.destroy (h : view.Entrusted own fine) (hbackend : backend.Trusting own fine)
    (hown : own view.scene.memory.size coroutine.state) :
    (view.destroy backend coroutine).Entrusted own fine :=
  have hadopted := h.adopt (hbackend.destroy _ _ hown h.fine)
  ⟨hadopted.fine, hadopted.own⟩

/-- Coroutines are destroyed one after another, each with the memory it relies on. -/
theorem Entrusted.foldl_destroy (h : view.Entrusted own fine)
    (hbackend : backend.Trusting own fine) (list : List (Coroutine ρ))
    (hown : ∀ coroutine ∈ list, own view.scene.memory.size coroutine.state) :
    (list.foldl (View.destroy backend) view).Entrusted own fine := by
  induction list generalizing view with
  | nil => exact h
  | cons coroutine rest ih =>
      obtain ⟨hfirst, hrest⟩ := List.forall_mem_cons.mp hown
      refine ih (h.destroy hbackend hfirst) fun other hmem => ?_
      have hsize : (view.destroy backend coroutine).scene.memory.size = view.scene.memory.size :=
        size_adopt _ _
      rw [hsize]
      exact hrest other hmem

end View

namespace Run

variable {run : Run ρ σ} {program : Program ρ σ} {constants : Constants}

/-- Every queued coroutine of the run may rely on its memory. -/
def Entrusted (run : Run ρ σ) (own : Nat → ρ → Prop) (fine : σ → Prop) : Prop :=
  ∃ view, run.Shows view ∧ view.Entrusted own fine

/-- A coroutine that could not be queued is destroyed with the memory it relies on. -/
theorem Shows.entrusted_enqueue (hshows : run.Shows view) (h : view.Entrusted own fine)
    (hbackend : backend.Trusting own fine) (hown : own view.scene.memory.size coroutine.state) :
    (run.enqueue backend coroutine).2.Entrusted own fine := by
  rcases hshows.enqueue_cases backend coroutine with
    ⟨after, heq, hafter⟩ | ⟨fault, after, heq, hafter⟩
  · rw [heq]
    exact ⟨_, hafter, h.enqueue hown⟩
  · rw [heq]
    exact ⟨_, hafter, h.destroy hbackend hown⟩

theorem Shows.entrusted_spawn (hshows : run.Shows view) (h : view.Entrusted own fine)
    (hbackend : backend.Trusting own fine) (hprogram : program.Trusting own fine)
    (constants : Constants) (workgroup : Coord) (subgroups : Subgroups) :
    (run.spawn backend program constants workgroup subgroups).2.Entrusted own fine := by
  obtain ⟨hfine, hstate⟩ := hprogram constants workgroup subgroups view.scene h.fine
  have hadopted := h.adopt hfine
  cases hstart : (program.start constants workgroup subgroups view.scene).1 with
  | error fault =>
      obtain ⟨after, heq, hafter⟩ := hshows.spawn_error backend hstart
      rw [heq]
      exact ⟨_, hafter, hadopted⟩
  | ok state =>
      obtain ⟨ready, heq, hready⟩ := hshows.spawn_ok backend hstart
      rw [heq]
      refine hready.entrusted_enqueue ⟨hadopted.fine, hadopted.own⟩ hbackend ?_
      exact (View.size_adopt view _).symm ▸ hstate state hstart

theorem Shows.entrusted_resume (hshows : run.Shows view) (h : view.Entrusted own fine)
    (hbackend : backend.Trusting own fine) (hown : own view.scene.memory.size coroutine.state) :
    (run.resume backend coroutine).2.Entrusted own fine := by
  obtain ⟨hstate, hfine⟩ := hbackend.resume _ _ hown h.fine
  obtain ⟨acted, hacted, heq⟩ := hshows.resume_eq backend coroutine
  have hadopted := h.adopt hfine
  rw [← View.size_adopt view (backend.resume coroutine.state view.scene).scene] at hstate
  rw [heq]
  split
  · exact ⟨_, hacted.destroy backend _, View.Entrusted.destroy ⟨hadopted.fine, hadopted.own⟩
      hbackend hstate⟩
  · exact hacted.entrusted_enqueue ⟨hadopted.fine, hadopted.own⟩ hbackend hstate
  · exact ⟨_, hacted.destroy backend _, View.Entrusted.destroy ⟨hadopted.fine, hadopted.own⟩
      hbackend hstate⟩

theorem Entrusted.step (hbackend : backend.Trusting own fine) (hprogram : program.Trusting own fine)
    (run after : Run ρ σ) (hstep : Step backend program constants run after)
    (h : run.Entrusted own fine) : after.Entrusted own fine := by
  obtain ⟨view, hshows, hview⟩ := h
  cases hstep with
  | spawn workgroup subgroups =>
      exact hshows.entrusted_spawn hview hbackend hprogram constants workgroup subgroups
  | resume hpop =>
      obtain ⟨rest, hqueue, htaken⟩ := hshows.of_pop_some hpop
      obtain ⟨hown, hrest⟩ := List.forall_mem_cons.mp (hqueue ▸ hview.own)
      exact htaken.entrusted_resume ⟨hview.fine, hrest⟩ hbackend hown
  | destroy hpop =>
      obtain ⟨rest, hqueue, htaken⟩ := hshows.of_pop_some hpop
      obtain ⟨hown, hrest⟩ := List.forall_mem_cons.mp (hqueue ▸ hview.own)
      exact ⟨_, htaken.destroy backend _, View.Entrusted.destroy ⟨hview.fine, hrest⟩ hbackend hown⟩
  | pass hpop => exact ⟨view, hshows.of_pop_none hpop, hview⟩

theorem Entrusted.dispatch (h : run.Entrusted own fine) (hbackend : backend.Trusting own fine)
    {context : Context ρ σ} (hcontext : ∀ program, context.program = some program →
      program.Trusting own fine) (index : Nat) :
    (context.dispatch backend index run).2.Entrusted own fine := by
  by_cases haccept : context.program.isSome ∧ index < context.threads
  · obtain ⟨program, hprogram⟩ := Option.isSome_iff_exists.mp haccept.1
    have htrust := hcontext program hprogram
    obtain ⟨view, hshows, hview⟩ := h
    obtain ⟨cleared, hdiscard, hcleared⟩ := hshows.discard_eq backend
    have hemptied : View.Entrusted { view with queue := [] } own fine :=
      View.entrusted_of_empty rfl hview.fine
    have hfine : fine (view.discard backend).scene.shared :=
      (hemptied.foldl_destroy hbackend view.queue hview.own).fine
    have hempty : (view.discard backend).queue = [] := View.queue_discard backend view
    have hready : (cleared.reserveMemory context.memorySize).2.Entrusted own fine := by
      cases hmemory : memoryFault context.memorySize with
      | some fault =>
          rw [hcleared.reserveMemory_error hmemory]
          exact ⟨_, hcleared, View.entrusted_of_empty hempty hfine⟩
      | none =>
          obtain ⟨ready, bytes, heq, hready⟩ := hcleared.reserveMemory_ok hmemory
          rw [heq]
          exact ⟨_, hready, View.entrusted_of_empty hempty hfine⟩
    obtain ⟨last, hreaches, hlast⟩ := dispatch_reaches hprogram haccept.2 hdiscard
    obtain ⟨final, hfinal, hdone⟩ := hreaches.keeps (Entrusted.step hbackend htrust) hready
    rcases hlast with heq | ⟨stats, heq⟩
    · rw [heq]
      exact ⟨final, hfinal, hdone⟩
    · rw [heq]
      exact ⟨final, hfinal.record_other rfl, hdone⟩
  · obtain ⟨refusal, heq⟩ := dispatch_of_refused backend haccept run
    rw [heq]
    exact h

theorem Entrusted.release (h : run.Entrusted own fine) (hbackend : backend.Trusting own fine) :
    (run.release backend).Entrusted own fine := by
  obtain ⟨view, hshows, hview⟩ := h
  -- the slots are given up in their own order, while the memory is still there
  have hslots : ∀ coroutine ∈ run.thread.queue.slotOrder,
      own view.scene.memory.size coroutine.state :=
    fun coroutine hmem => hview.own coroutine (hshows.queue.slotOrder_perm.mem_iff.mp hmem)
  have hempty : (run.withQueue .empty).Shows { view with queue := [] } :=
    hshows.withQueue Ring.stores_empty (show 0 < word by decide)
  have hfolded := hempty.foldl_destroy backend run.thread.queue.slotOrder
  have hemptied : View.Entrusted { view with queue := [] } own fine :=
    View.entrusted_of_empty rfl hview.fine
  have hfine := (hemptied.foldl_destroy hbackend run.thread.queue.slotOrder hslots).fine
  obtain ⟨order, scene, -, hreleased⟩ := hshows.release backend
  refine ⟨_, hreleased, View.entrusted_of_empty rfl ?_⟩
  rw [← congrArg Scene.shared hreleased.scene]
  rw [← congrArg Scene.shared hfolded.scene] at hfine
  exact hfine

end Run

end

/-! ## Histories -/

namespace Operation

variable {own : Nat → ρ → Prop} {fine : σ → Prop} {backend : Backend ρ σ} {run : Run ρ σ}

theorem entrusted_perform (h : run.Entrusted own fine) (hbackend : backend.Trusting own fine)
    {operation : Operation ρ σ} (htrust : operation.Trusting own fine) :
    (operation.perform backend run).Entrusted own fine := by
  cases operation with
  | dispatch context index => exact h.dispatch hbackend htrust index
  | release => exact h.release hbackend
  | meanwhile shared =>
      obtain ⟨view, hshows, hview⟩ := h
      exact ⟨{ view with scene := ⟨view.scene.memory, shared⟩ },
        ⟨hshows.queue, hshows.countable, hshows.memory,
          congrArg (Scene.mk · shared) (congrArg Scene.memory hshows.scene), hshows.begun,
          hshows.history⟩, htrust, hview.own⟩

theorem entrusted_performAll (hbackend : backend.Trusting own fine)
    (operations : List (Operation ρ σ)) : ∀ {run : Run ρ σ}, run.Entrusted own fine →
      (∀ operation ∈ operations, operation.Trusting own fine) →
      (performAll backend operations run).Entrusted own fine := by
  induction operations with
  | nil => exact fun h _ => h
  | cons operation rest ih =>
      intro run h htrust
      obtain ⟨hfirst, hrest⟩ := List.forall_mem_cons.mp htrust
      exact ih (entrusted_perform h hbackend hfirst) hrest

/-- **No memory is replaced under a live coroutine, over every history of a thread.** Whenever
the memory is replaced or given up, everyone begun before has been destroyed. From when a
coroutine is begun until it is destroyed the memory therefore stays what it was and as long as
it was. The thread holds the memory that the history says. So a coroutine may rely on finding
its memory at the length it was begun with: what can be shown of programs and coroutines under
this assumption holds of everything that is queued after any history, and of what it shares. -/
theorem memory_kept_while_alive (backend : Backend ρ σ) (shared : σ)
    (operations : List (Operation ρ σ)) :
    let run := performAll backend operations (.fresh shared)
    (∀ before event after, run.log = before ++ event :: after → event.ofMemory = true →
      ∀ ticket, .begun ticket ∈ before → .destroyed ticket ∈ before)
    ∧ (∀ ticket before life after, run.log = before ++ .begun ticket :: (life ++ after) →
      .destroyed ticket ∉ life →
        (∀ event ∈ life, event.ofMemory = false)
        ∧ memoryLength (before ++ .begun ticket :: life) = memoryLength before)
    ∧ run.thread.memory.size = memoryLength run.log
    ∧ ∀ (own : Nat → ρ → Prop) (fine : σ → Prop), backend.Trusting own fine → fine shared →
      (∀ operation ∈ operations, operation.Trusting own fine) →
        fine run.shared
        ∧ ∀ coroutine ∈ run.thread.queue.toList, own run.thread.memory.size coroutine.state := by
  intro run
  have hattended : run.Attended :=
    attended_performAll backend operations (attended_fresh shared) (keeps_fresh shared)
  refine ⟨fun before event after => hattended.vacated before event after, ?_, hattended.size_eq, ?_⟩
  · intro ticket before life after hlog halive
    have hother := hattended.ofMemory_eq_false
      (chronicle_performAll backend shared operations) hlog halive
    refine ⟨hother, memoryLength_append_other before ?_⟩
    exact List.forall_mem_cons.mpr ⟨rfl, hother⟩
  · intro own fine hbackend hfine htrust
    have hfresh : (Run.fresh shared : Run ρ σ).Entrusted own fine :=
      ⟨_, Run.shows_fresh shared, View.entrusted_of_empty rfl hfine⟩
    obtain ⟨view, hshows, hview⟩ := entrusted_performAll hbackend operations hfresh htrust
    have hscene : run.scene = view.scene := hshows.scene
    refine ⟨?_, fun coroutine hmem => ?_⟩
    · change fine run.scene.shared
      rw [hscene]
      exact hview.fine
    · change own run.scene.memory.size coroutine.state
      rw [hshows.queue.toList_eq] at hmem
      rw [hscene]
      exact hview.own coroutine hmem

end Operation

/-! ## Coroutines that watch their memory

Any coroutine can be made to remember how long the memory was when it was begun, and to compare
whenever it comes to see the memory again. No history makes it find a difference. -/

/-- A coroutine with the length it remembers; a flag is lowered when it finds another one. -/
def Backend.watched (backend : Backend ρ σ) : Backend (Nat × ρ) (Bool × σ) where
  resume := fun (length, state) ⟨memory, same, shared⟩ =>
    let resumed := backend.resume state ⟨memory, shared⟩
    ⟨resumed.answer, (length, resumed.state),
      ⟨resumed.scene.memory, same && memory.size == length, resumed.scene.shared⟩⟩
  destroy := fun (length, state) ⟨memory, same, shared⟩ =>
    let after := backend.destroy state ⟨memory, shared⟩
    ⟨after.memory, same && memory.size == length, after.shared⟩

/-- A program whose coroutines remember the length of the memory they are begun with. -/
def Program.watched (program : Program ρ σ) : Program (Nat × ρ) (Bool × σ) where
  info := program.info
  start := fun constants workgroup subgroups ⟨memory, same, shared⟩ =>
    let (answer, after) := program.start constants workgroup subgroups ⟨memory, shared⟩
    (answer.map (memory.size, ·), ⟨after.memory, same, after.shared⟩)

/-- The length that a coroutine remembers is the present one. -/
def Remembers (length : Nat) (state : Nat × ρ) : Prop :=
  state.1 = length

/-- No coroutine has lowered the flag. -/
def Undisappointed (shared : Bool × σ) : Prop :=
  shared.1 = true

theorem Backend.watched_trusting (backend : Backend ρ σ) :
    backend.watched.Trusting Remembers Undisappointed where
  resume := by
    rintro ⟨length, state⟩ ⟨memory, same, shared⟩ rfl rfl
    exact ⟨rfl, beq_self_eq_true memory.size⟩
  destroy := by
    rintro ⟨length, state⟩ ⟨memory, same, shared⟩ rfl rfl
    exact beq_self_eq_true memory.size

theorem Program.watched_trusting (program : Program ρ σ) :
    program.watched.Trusting Remembers Undisappointed := by
  rintro constants workgroup subgroups ⟨memory, same, shared⟩ hsame
  refine ⟨hsame, fun state hstate => ?_⟩
  rw [Program.watched] at hstate
  dsimp only at hstate
  cases hanswer : (program.start constants workgroup subgroups ⟨memory, shared⟩).1 with
  | error fault =>
      rw [hanswer] at hstate
      cases hstate
  | ok inner =>
      rw [hanswer] at hstate
      cases hstate
      rfl

/-- Dispatches are of programs that watch, and nothing else touches the flag. -/
def Operation.Watched : Operation (Nat × ρ) (Bool × σ) → Prop
  | .dispatch context _ =>
    ∀ program, context.program = some program → ∃ inner : Program ρ σ, program = inner.watched
  | .release => True
  | .meanwhile shared => shared.1 = true

/-- Dispatching programs that watch, no coroutine ever finds its memory at another length
than it was begun with. -/
theorem Operation.watched_performAll (backend : Backend ρ σ) (shared : σ)
    (operations : List (Operation (Nat × ρ) (Bool × σ)))
    (hwatched : ∀ operation ∈ operations, operation.Watched) :
    (performAll backend.watched operations (.fresh (true, shared))).shared.1 = true := by
  have hfresh : (Run.fresh (true, shared) : Run (Nat × ρ) (Bool × σ)).Entrusted
      Remembers Undisappointed :=
    ⟨_, Run.shows_fresh _, View.entrusted_of_empty rfl rfl⟩
  obtain ⟨view, hshows, hview⟩ :=
    entrusted_performAll backend.watched_trusting operations hfresh (by
      intro operation hmem
      have hop := hwatched operation hmem
      cases operation with
      | dispatch context index =>
          intro program hprogram
          obtain ⟨inner, rfl⟩ := hop program hprogram
          exact inner.watched_trusting
      | release => trivial
      | meanwhile shared => exact hop)
  change (performAll backend.watched operations _).scene.shared.1 = true
  rw [hshows.scene]
  exact hview.fine

end GridDispatch
