/-
Whole histories of a thread.

A thread is dispatched on again and again, with whatever contexts and programs, and is
released now and then; between these operations the things that coroutines share may
change in any way. Every program may fault whenever it begins a coroutine, and every
coroutine whenever it is resumed. `Operation.performAll` runs any such history.

The claim is that the queue of the thread always holds exactly the coroutines that are
alive. In the middle of an operation this is not so: a coroutine that was just begun, or
was taken from the queue to be resumed, is alive and not queued. The invariant therefore
has a parameter for the coroutines that are held outside the queue (`Run.Keeps`). Each
step takes a held coroutine back to the queue or destroys it, whatever it answers, so the
loops have only to be followed, and a fault that leaves one early leaves nothing behind.

The invariant carries a piece of history along that is known to have happened. This is how
it is known afterwards that an operation began with what it had to begin with.
-/
import GridDispatch.Proofs.LifeCycle
import GridDispatch.Proofs.RunView

set_option autoImplicit false

namespace GridDispatch

variable {ρ σ : Type}

/-- A thread that has run nothing, and what its coroutines will share. -/
def Run.fresh (shared : σ) : Run ρ σ :=
  ⟨.initial, shared, #[]⟩

/-- What can happen to a thread. -/
inductive Operation (ρ σ : Type) where
  /-- It runs its share of a dispatch, or refuses to. -/
  | dispatch (context : Context ρ σ) (index : Nat)
  | release
  /-- Something else changes what coroutines share. -/
  | meanwhile (shared : σ)

namespace Operation

/-- The run after one operation. -/
def perform (backend : Backend ρ σ) (run : Run ρ σ) : Operation ρ σ → Run ρ σ
  | .dispatch context index => (context.dispatch backend index run).2
  | .release => run.release backend
  | .meanwhile shared => { run with shared }

/-- The run after operations, one after another. -/
def performAll (backend : Backend ρ σ) (operations : List (Operation ρ σ)) (run : Run ρ σ) :
    Run ρ σ :=
  operations.foldl (perform backend) run

end Operation

/-- The names of the queued coroutines, from front to back. -/
def Run.queued (run : Run ρ σ) : List Ticket :=
  run.thread.queue.toList.map Coroutine.ticket

namespace Run

/-- The coroutines alive are those in the queue and those held outside of it, and a piece
of history has happened. -/
def Keeps (run : Run ρ σ) (past : List Event) (held : List Ticket) : Prop :=
  ∃ view, run.Shows view ∧ past <+: view.history
    ∧ Chronicle view.history (held ++ view.tickets) view.begun

theorem shows_fresh (shared : σ) :
    (fresh shared : Run ρ σ).Shows ⟨[], ⟨#[], shared⟩, 0, []⟩ :=
  ⟨Ring.stores_empty, (by decide : 0 < word), ⟨rfl, Nat.zero_le _⟩, rfl, rfl, rfl⟩

theorem Shows.queued_eq {run : Run ρ σ} {view : View ρ σ} (h : run.Shows view) :
    run.queued = view.tickets := by
  rw [queued, h.queue.toList_eq, View.tickets]

/-- Discarding destroys the queued coroutines in the order of the queue. -/
theorem Shows.history_discard {run : Run ρ σ} {view : View ρ σ} (h : run.Shows view)
    (backend : Backend ρ σ) :
    (view.discard backend).history = run.history ++ run.queued.map .destroyed := by
  rw [View.history_discard, h.queued_eq, h.history]

variable {run : Run ρ σ} {past : List Event} {held : List Ticket} {backend : Backend ρ σ}
  {coroutine : Coroutine ρ}

/-! ## Single steps -/

/-- A held coroutine is queued, or else destroyed. -/
theorem Keeps.enqueue (h : run.Keeps past [coroutine.ticket]) :
    (run.enqueue backend coroutine).2.Keeps past [] := by
  obtain ⟨view, hshows, hpast, hliving⟩ := h
  rcases hshows.enqueue_cases backend coroutine with
    ⟨after, heq, hafter⟩ | ⟨fault, after, heq, hafter⟩
  · rw [heq]
    refine ⟨_, hafter, hpast, hliving.perm ?_⟩
    rw [View.tickets_enqueue]
    exact List.perm_append_comm
  · rw [heq]
    exact ⟨_, hafter, hpast.trans (List.prefix_append _ _), hliving.destroy⟩

theorem Keeps.spawn (h : run.Keeps past []) (backend : Backend ρ σ) (program : Program ρ σ)
    (constants : Constants) (workgroup : Coord) (subgroups : Subgroups) :
    (run.spawn backend program constants workgroup subgroups).2.Keeps past [] := by
  obtain ⟨view, hshows, hpast, hliving⟩ := h
  cases hstart : (program.start constants workgroup subgroups view.scene).1 with
  | error fault =>
      obtain ⟨after, heq, hafter⟩ := hshows.spawn_error backend hstart
      rw [heq]
      exact ⟨_, hafter, hpast, hliving⟩
  | ok state =>
      obtain ⟨ready, heq, hready⟩ := hshows.spawn_ok backend hstart
      rw [heq]
      exact Keeps.enqueue ⟨_, hready, hpast.trans (List.prefix_append _ _),
        hliving.begin workgroup subgroups⟩

theorem Keeps.resume (h : run.Keeps past [coroutine.ticket]) :
    (run.resume backend coroutine).2.Keeps past [] := by
  obtain ⟨view, hshows, hpast, hliving⟩ := h
  obtain ⟨acted, hacted, heq⟩ := hshows.resume_eq backend coroutine
  rw [heq]
  -- any answer but to wait is the end of the coroutine, a fault as much as a good one
  have hend : (backend.resume coroutine.state view.scene).answer ≠ .ok .waiting →
      (acted.destroy backend
        { coroutine with state := (backend.resume coroutine.state view.scene).state }).Keeps past []
      := by
    intro hanswer
    have hfinish := hliving.finish hanswer
    rw [List.append_cons] at hfinish
    refine ⟨_, hacted.destroy backend _, hpast.trans ?_, hfinish⟩
    exact (List.prefix_append _ _).trans (List.prefix_append _ _)
  cases hanswer : (backend.resume coroutine.state view.scene).answer with
  | error fault => exact hend (by rw [hanswer]; exact nofun)
  | ok progress =>
      cases progress with
      | ended => exact hend (by rw [hanswer]; exact nofun)
      | waiting =>
          rw [hanswer] at hacted
          exact Keeps.enqueue ⟨_, hacted, hpast.trans (List.prefix_append _ _), hliving.wait⟩

/-! ## Loops -/

theorem Keeps.spawnFrom (backend : Backend ρ σ) (program : Program ρ σ) (constants : Constants)
    (workgroup : Coord) (part : Nat → Subgroups) (count : Nat) :
    ∀ {run : Run ρ σ} (index : Nat), run.Keeps past [] →
      (run.spawnFrom backend program constants workgroup part index count).2.Keeps past [] := by
  induction count with
  | zero => exact fun _ h => h
  | succ count ih =>
      intro run index h
      have hspawn := h.spawn backend program constants workgroup (part index)
      rw [Run.spawnFrom]
      split
      · next heq => rwa [heq] at hspawn
      · next heq =>
          rw [heq] at hspawn
          exact ih _ hspawn

/-- Whatever is answered, the invariant is kept; and if the answer is a good one, nothing
is left in the queue. -/
def Settles {ε α : Type} (past : List Event) (outcome : Except ε α × Run ρ σ) : Prop :=
  outcome.2.Keeps past [] ∧ ∀ value, outcome.1 = .ok value → outcome.2.queued = []

theorem Keeps.settles_error {ε α : Type} (h : run.Keeps past []) (fault : ε) :
    Settles past ((.error fault, run) : Except ε α × Run ρ σ) :=
  ⟨h, by rintro _ ⟨⟩⟩

theorem Keeps.settles_ok {ε α : Type} (h : run.Keeps past []) (hempty : run.queued = [])
    (value : α) : Settles past ((.ok value, run) : Except ε α × Run ρ σ) :=
  ⟨h, fun _ _ => hempty⟩

/-- The recursion is that of the loop, on the number of resumptions that can still be
counted. -/
theorem Keeps.drain {run : Run ρ σ} (h : run.Keeps past []) (backend : Backend ρ σ)
    (count : Nat) : Settles past (run.drain backend count) := by
  obtain ⟨view, hshows, hpast, hliving⟩ := h
  cases hqueue : view.queue with
  | nil =>
      obtain ⟨after, heq, hafter⟩ := hshows.drain_nil backend hqueue count
      have hempty : after.queued = [] := by
        rw [hafter.queued_eq, View.tickets, hqueue, List.map_nil]
      rw [heq]
      exact Keeps.settles_ok ⟨view, hafter, hpast, hliving⟩ hempty count
  | cons coroutine rest =>
      -- the front coroutine is held now, and alive all the same
      rw [View.tickets, hqueue, List.map_cons] at hliving
      by_cases hroom : count + 1 < word
      · obtain ⟨taken, htaken, heq⟩ := hshows.drain_cons backend hqueue hroom
        have hresume : (taken.resume backend coroutine).2.Keeps past [] :=
          Keeps.resume ⟨_, htaken, hpast, hliving⟩
        rw [heq]
        split
        · next hresumed =>
            rw [hresumed] at hresume
            exact hresume.settles_error _
        · next hresumed =>
            rw [hresumed] at hresume
            exact hresume.drain backend (count + 1)
      · obtain ⟨after, heq, hafter⟩ := hshows.drain_limit backend hqueue (Nat.not_lt.mp hroom)
        have hkeeps : after.Keeps past [] :=
          ⟨_, hafter, hpast.trans (List.prefix_append _ _), hliving.destroy⟩
        rw [heq]
        exact hkeeps.settles_error _
termination_by word - count
decreasing_by omega

/-! ## A dispatch -/

theorem Keeps.runWorkgroup (h : run.Keeps past []) (context : Context ρ σ)
    (backend : Backend ρ σ) (program : Program ρ σ) (stats : Stats) (workgroup : Coord) :
    Settles past (context.runWorkgroup backend program stats run workgroup) := by
  have hspawn := Keeps.spawnFrom backend program context.constants workgroup
    context.coroutinePart context.coroutineCount 0 h
  rw [Context.runWorkgroup]
  cases Checked.add word stats.workgroups 1 with
  | error fault => exact h.settles_error fault
  | ok workgroups =>
      dsimp only
      split
      · next heq =>
          rw [heq] at hspawn
          exact hspawn.settles_error _
      · next begun heq =>
          rw [heq] at hspawn
          have hdrain := hspawn.drain backend stats.resumptions
          cases Checked.add word stats.coroutines context.coroutineCount with
          | error fault => exact hspawn.settles_error fault
          | ok coroutines =>
              dsimp only
              split
              · next heq =>
                  rw [heq] at hdrain
                  exact hdrain.1.settles_error _
              · next heq =>
                  rw [heq] at hdrain
                  exact hdrain.1.settles_ok (hdrain.2 _ rfl) _

theorem Keeps.runFrom (context : Context ρ σ) (backend : Backend ρ σ) (program : Program ρ σ)
    (thread count : Nat) : ∀ {run : Run ρ σ} (stats : Stats) (place : Nat),
    run.Keeps past [] → run.queued = [] →
    Settles past (context.runFrom backend program thread stats run place count) := by
  induction count with
  | zero => exact fun stats _ h hempty => h.settles_ok hempty stats
  | succ count ih =>
      intro run stats place h _
      have hone := h.runWorkgroup context backend program stats (context.shareAt thread place)
      rw [Context.runFrom]
      split
      · next heq =>
          rw [heq] at hone
          exact hone.1.settles_error _
      · next heq =>
          rw [heq] at hone
          exact ih _ _ hone.1 (hone.2 _ rfl)

theorem Keeps.mono (h : run.Keeps past held) {earlier : List Event} (hle : earlier <+: past) :
    run.Keeps earlier held := by
  obtain ⟨view, hshows, hpast, hliving⟩ := h
  exact ⟨view, hshows, hle.trans hpast, hliving⟩

/-- A dispatch that is refused touches nothing. -/
theorem dispatch_of_refused (backend : Backend ρ σ) {context : Context ρ σ} {thread : Nat}
    (h : ¬ (context.program.isSome ∧ thread < context.threads)) (run : Run ρ σ) :
    ∃ refusal, context.dispatch backend thread run = (.error (.refused refusal), run) := by
  rw [Context.dispatch]
  cases hprogram : context.program with
  | none => exact ⟨_, rfl⟩
  | some program =>
      have hindex : context.threads ≤ thread := by
        rw [hprogram] at h
        exact Nat.not_lt.mp fun hlt => h ⟨rfl, hlt⟩
      dsimp only
      rw [if_pos hindex]
      exact ⟨_, rfl⟩

/-- One that is accepted first destroys what is queued, in the order of the queue. -/
theorem Keeps.dispatch (h : run.Keeps past []) (backend : Backend ρ σ) {context : Context ρ σ}
    {thread : Nat} (haccept : context.program.isSome ∧ thread < context.threads) :
    Settles (run.history ++ run.queued.map .destroyed) (context.dispatch backend thread run) := by
  obtain ⟨view, hshows, -, hliving⟩ := h
  obtain ⟨hsome, hindex⟩ := haccept
  obtain ⟨program, hprogram⟩ := Option.isSome_iff_exists.mp hsome
  have hempty : (view.discard backend).tickets = [] := by
    rw [View.tickets, View.queue_discard, List.map_nil]
  have hgone : Chronicle (view.discard backend).history [] (view.discard backend).begun := by
    rw [View.history_discard, View.begun_discard]
    refine Chronicle.destroyAll ?_
    rwa [List.append_nil]
  -- so far the history is the same whether or not there is memory for the dispatch
  rw [← hshows.history_discard backend]
  cases hmemory : memoryFault context.memorySize with
  | some fault =>
      obtain ⟨after, heq, hafter⟩ :=
        hshows.dispatch_of_memoryFault backend hprogram hindex hmemory
      rw [heq]
      exact Keeps.settles_error ⟨_, hafter, List.prefix_rfl, by rwa [hempty]⟩ _
  | none =>
      obtain ⟨ready, bytes, -, hready, heq⟩ :=
        hshows.dispatch_of_memory backend hprogram hindex hmemory
      have hqueued : ready.queued = [] := hready.queued_eq.trans hempty
      have hkeeps : ready.Keeps (view.discard backend).history [] :=
        ⟨_, hready, List.prefix_rfl, by
          rw [List.nil_append, ← hready.queued_eq, hqueued]
          exact hgone⟩
      have hshare := Keeps.runFrom context backend program thread (context.shareSize thread) .zero 0
        hkeeps hqueued
      rw [heq]
      split
      · next hrun =>
          rw [hrun] at hshare
          exact hshare.1.settles_error _
      · next stats after hrun =>
          rw [hrun] at hshare
          obtain ⟨⟨last, hlast, hpast, hfinal⟩, hdone⟩ := hshare
          exact ⟨⟨last, hlast.record_other rfl, hpast, hfinal⟩, fun _ _ => hdone stats rfl⟩

/-- Releasing destroys what is queued, in some order. -/
theorem Keeps.release (h : run.Keeps past []) (backend : Backend ρ σ) :
    (run.release backend).Keeps run.history [] ∧ (run.release backend).queued = []
      ∧ ∃ order : List Ticket, order.Perm run.queued
        ∧ (run.release backend).history = run.history ++ order.map .destroyed := by
  obtain ⟨view, hshows, -, hliving⟩ := h
  obtain ⟨order, scene, hperm, hreleased⟩ := hshows.release backend
  have hmap : order.map (fun coroutine => Event.destroyed coroutine.ticket)
      = (order.map Coroutine.ticket).map .destroyed := by
    rw [List.map_map]
    rfl
  have horder : (order.map Coroutine.ticket).Perm view.tickets := hperm.map _
  rw [hmap] at hreleased
  refine ⟨⟨_, hreleased, ?_, ?_⟩, hreleased.queued_eq, order.map Coroutine.ticket, ?_, ?_⟩
  · rw [hshows.history]
    exact List.prefix_append _ _
  · refine Chronicle.destroyAll (hliving.perm ?_)
    exact horder.symm.trans (List.Perm.of_eq (List.append_nil _).symm)
  · rw [hshows.queued_eq]
    exact horder
  · rw [hreleased.history, hshows.history]

end Run

/-! ## Histories -/

namespace Operation

theorem keeps_perform {run : Run ρ σ} (h : run.Keeps [] []) (backend : Backend ρ σ)
    (operation : Operation ρ σ) : (operation.perform backend run).Keeps [] [] := by
  cases operation with
  | dispatch context index =>
      by_cases haccept : context.program.isSome ∧ index < context.threads
      · exact (h.dispatch backend haccept).1.mono List.nil_prefix
      · obtain ⟨refusal, heq⟩ := Run.dispatch_of_refused backend haccept run
        rw [perform, heq]
        exact h
  | release => exact (h.release backend).1.mono List.nil_prefix
  | meanwhile shared =>
      obtain ⟨view, hshows, hpast, hliving⟩ := h
      exact ⟨{ view with scene := ⟨view.scene.memory, shared⟩ },
        ⟨hshows.queue, hshows.countable, hshows.memory,
          congrArg (Scene.mk · shared) (congrArg Scene.memory hshows.scene), hshows.begun,
          hshows.history⟩, hpast, hliving⟩

theorem keeps_performAll (backend : Backend ρ σ) (operations : List (Operation ρ σ)) :
    ∀ {run : Run ρ σ}, run.Keeps [] [] → (performAll backend operations run).Keeps [] [] := by
  induction operations with
  | nil => exact id
  | cons operation rest ih => exact fun h => ih (keeps_perform h backend operation)

theorem keeps_fresh (shared : σ) : (Run.fresh shared : Run ρ σ).Keeps [] [] :=
  ⟨_, Run.shows_fresh shared, List.prefix_rfl, .nil⟩

/-- Between operations the queue holds the coroutines that are alive. -/
theorem chronicle_performAll (backend : Backend ρ σ) (shared : σ)
    (operations : List (Operation ρ σ)) :
    Chronicle (performAll backend operations (.fresh shared)).history
      (performAll backend operations (.fresh shared)).queued
      (performAll backend operations (.fresh shared)).thread.begun := by
  obtain ⟨view, hshows, -, hliving⟩ := keeps_performAll backend operations (keeps_fresh shared)
  rw [hshows.history, hshows.queued_eq, hshows.begun]
  exact hliving

/-- **The life of every coroutine, over every history of a thread.** After any operations
the queue holds the coroutines that were begun and not destroyed, each of them once. One
that is in the queue was begun and has waited whenever it was resumed; every other one that
was ever begun has been destroyed once, and if it gave another answer before, then the last
time it was resumed, with the end right behind. Whatever is left in the queue is destroyed
by the next dispatch that is accepted, before anything else and in the order of the queue,
and otherwise when the thread is released or dropped, so that then all have ended. A
dispatch that answers well leaves nothing. -/
theorem lifeCycle (backend : Backend ρ σ) (shared : σ) (operations : List (Operation ρ σ)) :
    let run := performAll backend operations (.fresh shared)
    run.queued.Nodup
    ∧ (∀ ticket, ticket ∈ run.queued ↔
        .begun ticket ∈ run.history ∧ .destroyed ticket ∉ run.history)
    ∧ (∀ ticket, .begun ticket ∈ run.history →
        if ticket ∈ run.queued then ticket.Alive run.history else ticket.Ended run.history)
    ∧ (∀ ticket : Ticket, .begun ticket ∉ run.history → ticket.life run.history = [])
    ∧ Prompt run.history
    ∧ (∀ (context : Context ρ σ) (index : Nat),
        ((context.program.isSome ∧ index < context.threads) →
          run.history ++ run.queued.map .destroyed
            <+: (context.dispatch backend index run).2.history)
        ∧ (¬ (context.program.isSome ∧ index < context.threads) →
          (context.dispatch backend index run).2 = run)
        ∧ ∀ stats, (context.dispatch backend index run).1 = .ok stats →
          (context.dispatch backend index run).2.queued = [])
    ∧ (run.release backend).queued = []
    ∧ (∃ order : List Ticket, order.Perm run.queued
        ∧ (run.release backend).history = run.history ++ order.map .destroyed)
    ∧ ∀ ticket, .begun ticket ∈ (run.release backend).history →
        ticket.Ended (run.release backend).history := by
  intro run
  have hkeeps : run.Keeps [] [] := keeps_performAll backend operations (keeps_fresh shared)
  have hrun : Chronicle run.history run.queued run.thread.begun :=
    chronicle_performAll backend shared operations
  obtain ⟨hreleased, hempty, horder⟩ := hkeeps.release backend
  refine ⟨hrun.nodup, hrun.mem_living_iff, ?_, ?_, hrun.prompt, ?_, hempty, horder, ?_⟩
  · intro ticket hbegun
    by_cases hmem : ticket ∈ run.queued
    · rw [if_pos hmem]
      exact hrun.alive ticket hmem
    · rw [if_neg hmem]
      exact hrun.ended hmem hbegun
  · exact fun ticket hnever => hrun.life_eq_nil hnever
  · -- the next dispatch, of any context: what happened before is a prefix of its history
    intro context index
    by_cases haccept : context.program.isSome ∧ index < context.threads
    · obtain ⟨⟨view, hshows, hpast, -⟩, hdone⟩ := hkeeps.dispatch backend haccept
      exact ⟨fun _ => hshows.history ▸ hpast, fun hrefuse => absurd haccept hrefuse, hdone⟩
    · obtain ⟨refusal, heq⟩ := Run.dispatch_of_refused backend haccept run
      rw [heq]
      exact ⟨fun haccept' => absurd haccept' haccept, fun _ => rfl, by rintro _ ⟨⟩⟩
  · intro ticket hbegun
    -- nothing is queued any more, so nothing is alive
    obtain ⟨view, hshows, -, hliving⟩ := hreleased
    rw [List.nil_append, ← hshows.queued_eq, hempty, ← hshows.history] at hliving
    exact hliving.ended List.not_mem_nil hbegun

end Operation

/-! ## Threads that come about -/

/-- The thread has some history. -/
def Thread.Reachable (backend : Backend ρ σ) (thread : Thread ρ) : Prop :=
  ∃ shared operations, (Operation.performAll backend operations (.fresh shared)).thread = thread

/-- Its ring is sound, no coroutine is in it twice, and none that is still to be begun. -/
theorem Thread.Reachable.shows {backend : Backend ρ σ} {run : Run ρ σ}
    (h : run.thread.Reachable backend) :
    ∃ queue, run.Shows ⟨queue, run.scene, run.thread.begun, run.history⟩
      ∧ (queue.map Coroutine.ticket).Nodup
      ∧ ∀ ticket ∈ queue.map Coroutine.ticket, ticket.serial < run.thread.begun := by
  obtain ⟨shared, operations, heq⟩ := h
  obtain ⟨view, hshows, -, hliving⟩ :=
    Operation.keeps_performAll backend operations (Operation.keeps_fresh shared)
  refine ⟨view.queue, .of_stores ?_ ?_ ?_, hliving.nodup, ?_⟩
  · exact heq ▸ hshows.queue
  · exact heq ▸ hshows.countable
  · exact heq ▸ hshows.memory
  · intro ticket hmem
    rw [← heq, hshows.begun]
    exact hliving.serial_lt hmem

end GridDispatch
