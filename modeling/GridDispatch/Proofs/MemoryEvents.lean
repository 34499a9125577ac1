/-
The memory of a thread, over its history.

A coroutine is handed the workgroup memory of its thread when it is begun, and uses what it was
handed until it is destroyed. The block must be there as long. A dispatch may replace it by a
longer one, and releasing the thread gives it up; that neither happens under a live coroutine is
a matter of order only, since a dispatch first destroys what an earlier one left behind, and
releasing empties the queue before it gives the memory up.

`Vacated` states it of a history: at every event about memory, everyone begun before has been
destroyed. Steps of a dispatch add no such event and leave the length of the memory alone
(`Quiet`), so only the two moments have to be looked at at which there is one. There the life
cycles of `History` say that nobody is alive. `Attended` is what is kept over all operations.
-/
import GridDispatch.Proofs.History
import GridDispatch.Proofs.Steps

set_option autoImplicit false

namespace GridDispatch

variable {ρ σ : Type}

/-! ## Events about memory -/

namespace Event

/-- Whether the memory of the thread is replaced or given up in an event. -/
def ofMemory : Event → Bool
  | .memoryGrown _ | .memoryReleased => true
  | _ => false

/-- The length of the memory after an event. -/
def lengthAfter (length : Nat) : Event → Nat
  | .memoryGrown size => size
  | .memoryReleased => 0
  | _ => length

theorem lengthAfter_of_other {event : Event} (h : event.ofMemory = false) (length : Nat) :
    lengthAfter length event = length := by
  cases event with
  | memoryGrown => cases h
  | memoryReleased => cases h
  | _ => rfl

theorem ofMemory_resumed (ticket : Ticket) (answer : Except Fault Progress) :
    (resumed ticket answer).ofMemory = false :=
  rfl

end Event

/-- The length of the memory of a thread with this history. -/
def memoryLength (events : List Event) : Nat :=
  events.foldl Event.lengthAfter 0

theorem memoryLength_concat (events : List Event) (event : Event) :
    memoryLength (events ++ [event]) = event.lengthAfter (memoryLength events) := by
  rw [memoryLength, List.foldl_append, List.foldl_cons, List.foldl_nil, memoryLength]

theorem memoryLength_append_other {more : List Event} (events : List Event)
    (h : ∀ event ∈ more, event.ofMemory = false) :
    memoryLength (events ++ more) = memoryLength events := by
  induction more generalizing events with
  | nil => rw [List.append_nil]
  | cons event rest ih =>
      obtain ⟨hevent, hrest⟩ := List.forall_mem_cons.mp h
      rw [List.append_cons, ih _ hrest, memoryLength_concat, Event.lengthAfter_of_other hevent]

/-- Everyone who was begun has been destroyed. -/
def Deserted (events : List Event) : Prop :=
  ∀ ticket, .begun ticket ∈ events → .destroyed ticket ∈ events

/-- Whenever the memory is replaced or given up, nobody is alive. -/
def Vacated (events : List Event) : Prop :=
  ∀ past event later, events = past ++ event :: later → event.ofMemory = true → Deserted past

theorem Vacated.append_other {events more : List Event} (h : Vacated events)
    (hmore : ∀ event ∈ more, event.ofMemory = false) : Vacated (events ++ more) := by
  intro past event later heq hevent
  have hout : event ∉ more := by
    intro hmem
    rw [hmore event hmem] at hevent
    cases hevent
  rcases List.append_eq_append_iff.mp heq with ⟨front, -, hfront⟩ | ⟨front, hpast, hfront⟩
  · exact absurd (hfront ▸ List.mem_append_right _ List.mem_cons_self) hout
  · cases front with
    | nil =>
        rw [List.nil_append] at hfront
        exact absurd (hfront ▸ List.mem_cons_self) hout
    | cons first rest =>
        cases hfront
        exact h past event rest hpast hevent

theorem Vacated.concat {events : List Event} (h : Vacated events) (hgone : Deserted events)
    (event : Event) : Vacated (events ++ [event]) := by
  intro past other later heq hother
  rcases List.append_eq_append_iff.mp heq with ⟨front, hpast, hfront⟩ | ⟨front, hpast, hfront⟩
  · -- the event itself, with nothing behind it
    cases front with
    | nil =>
        rw [hpast, List.append_nil]
        exact hgone
    | cons first rest => simp at hfront
  · cases front with
    | nil =>
        rw [← List.append_nil past, ← hpast]
        exact hgone
    | cons first rest =>
        cases hfront
        exact h past other rest hpast hother

namespace Run

/-- The whole history. -/
def log (run : Run ρ σ) : List Event :=
  run.events.toList

theorem log_record (run : Run ρ σ) (event : Event) : (run.record event).log = run.log ++ [event] :=
  Array.toList_push

/-- Events about coroutines are part of both histories. -/
theorem mem_history_iff {run : Run ρ σ} {event : Event} (h : event.ofCoroutine = true) :
    event ∈ run.history ↔ event ∈ run.log := by
  rw [history, List.mem_filter, and_iff_left h]
  rfl

theorem deserted_log_iff (run : Run ρ σ) : Deserted run.log ↔ Deserted run.history := by
  refine forall_congr' fun ticket => ?_
  have hbegun : .begun ticket ∈ run.history ↔ .begun ticket ∈ run.log := mem_history_iff rfl
  have hdestroyed : .destroyed ticket ∈ run.history ↔ .destroyed ticket ∈ run.log :=
    mem_history_iff rfl
  rw [hbegun, hdestroyed]

/-! ## Steps that leave the memory alone -/

/-- Nothing happens to the memory from one run to the other. -/
structure Quiet (run after : Run ρ σ) : Prop where
  log_eq : ∃ more, after.log = run.log ++ more ∧ ∀ event ∈ more, event.ofMemory = false
  size_eq : after.thread.memory.size = run.thread.memory.size

theorem Quiet.refl (run : Run ρ σ) : run.Quiet run :=
  ⟨⟨[], (List.append_nil _).symm, fun _ hmem => (List.not_mem_nil hmem).elim⟩, rfl⟩

theorem Quiet.trans {run mid after : Run ρ σ} (h : run.Quiet mid) (hnext : mid.Quiet after) :
    run.Quiet after := by
  obtain ⟨⟨more, hmore, hother⟩, hsize⟩ := h
  obtain ⟨⟨more', hmore', hother'⟩, hsize'⟩ := hnext
  refine ⟨⟨more ++ more', ?_, ?_⟩, hsize'.trans hsize⟩
  · rw [hmore', hmore, List.append_assoc]
  · intro event hmem
    rcases List.mem_append.mp hmem with hmem | hmem
    · exact hother event hmem
    · exact hother' event hmem

theorem quiet_record (run : Run ρ σ) {event : Event} (h : event.ofMemory = false) :
    run.Quiet (run.record event) := by
  refine ⟨⟨[event], log_record run event, ?_⟩, rfl⟩
  intro other hmem
  rw [List.mem_singleton.mp hmem]
  exact h

theorem quiet_act {α : Type} (run : Run ρ σ) (action : Scene σ → α × Scene σ) :
    run.Quiet (run.act action).2 :=
  ⟨(Quiet.refl run).log_eq, Bytes.size_fit _ _⟩

theorem quiet_withQueue (run : Run ρ σ) (queue : Ring (Coroutine ρ)) :
    run.Quiet (run.withQueue queue) :=
  ⟨(Quiet.refl run).log_eq, rfl⟩

variable {backend : Backend ρ σ} {program : Program ρ σ} {constants : Constants}

theorem quiet_destroy (backend : Backend ρ σ) (run : Run ρ σ) (coroutine : Coroutine ρ) :
    run.Quiet (run.destroy backend coroutine) :=
  (run.quiet_act _).trans (quiet_record _ rfl)

theorem quiet_enqueue (backend : Backend ρ σ) (run : Run ρ σ) (coroutine : Coroutine ρ) :
    run.Quiet (run.enqueue backend coroutine).2 := by
  rw [enqueue]
  split
  · exact run.quiet_destroy backend coroutine
  · next queue growth _ =>
      cases growth with
      | none => exact run.quiet_withQueue queue
      | some growth => exact (run.quiet_withQueue queue).trans (quiet_record _ rfl)

theorem quiet_spawn (backend : Backend ρ σ) (program : Program ρ σ) (constants : Constants)
    (workgroup : Coord) (run : Run ρ σ) (subgroups : Subgroups) :
    run.Quiet (run.spawn backend program constants workgroup subgroups).2 := by
  have hacted := run.quiet_act (program.start constants workgroup subgroups)
  rw [spawn]
  split
  · next heq =>
      rw [heq] at hacted
      exact hacted
  · next state after heq =>
      rw [heq] at hacted
      have hbegun :
          after.Quiet (after.record (.begun ⟨after.thread.begun, workgroup, subgroups⟩)) :=
        quiet_record _ rfl
      -- the counter of the thread has nothing to do with its memory
      have hcounted : after.Quiet
          { after.record (.begun ⟨after.thread.begun, workgroup, subgroups⟩) with
            thread := { after.thread with begun := after.thread.begun + 1 } } :=
        ⟨hbegun.log_eq, hbegun.size_eq⟩
      exact hacted.trans (hcounted.trans (quiet_enqueue backend _ _))

theorem quiet_resume (backend : Backend ρ σ) (run : Run ρ σ) (coroutine : Coroutine ρ) :
    run.Quiet (run.resume backend coroutine).2 := by
  have hacted := run.quiet_act fun scene =>
    (((backend.resume coroutine.state scene).answer, (backend.resume coroutine.state scene).state),
      (backend.resume coroutine.state scene).scene)
  rw [resume]
  dsimp only
  have hnoted := hacted.trans (quiet_record _ (Event.ofMemory_resumed coroutine.ticket
    (backend.resume coroutine.state run.scene).answer))
  split
  · exact hnoted.trans (quiet_destroy backend _ _)
  · exact hnoted.trans (quiet_enqueue backend _ _)
  · exact hnoted.trans (quiet_destroy backend _ _)

/-- No step has anything to do with the memory. -/
theorem Step.quiet {run after : Run ρ σ} (h : Step backend program constants run after) :
    run.Quiet after := by
  cases h with
  | spawn workgroup subgroups => exact run.quiet_spawn backend program constants _ _
  | resume hpop => exact (run.quiet_withQueue _).trans (quiet_resume backend _ _)
  | destroy hpop => exact (run.quiet_withQueue _).trans (quiet_destroy backend _ _)
  | pass hpop => exact run.quiet_withQueue _

theorem Reaches.quiet {run after : Run ρ σ} (h : Reaches backend program constants run after) :
    run.Quiet after :=
  h.keeps (fun _ _ hstep hquiet => hquiet.trans hstep.quiet) (Quiet.refl run)


/-! ## Steps that do not -/

/-- The memory was never replaced or given up under a live coroutine, and is as long as the
history has it. -/
structure Attended (run : Run ρ σ) : Prop where
  vacated : Vacated run.log
  size_eq : run.thread.memory.size = memoryLength run.log

theorem Attended.quiet {run after : Run ρ σ} (h : run.Attended) (hquiet : run.Quiet after) :
    after.Attended := by
  obtain ⟨⟨more, hlog, hother⟩, hsize⟩ := hquiet
  refine ⟨?_, ?_⟩
  · rw [hlog]
    exact h.vacated.append_other hother
  · rw [hsize, h.size_eq, hlog, memoryLength_append_other _ hother]

/-- Memory is replaced while nobody is alive. -/
theorem Attended.replace {run : Run ρ σ} (h : run.Attended) (hgone : Deserted run.log)
    (memory : Block) {event : Event} (hsize : ∀ length, event.lengthAfter length = memory.size) :
    ({ run with thread := { run.thread with memory } }.record event).Attended := by
  have hlog : ({ run with thread := { run.thread with memory } }.record event).log
      = run.log ++ [event] := log_record _ event
  refine ⟨?_, ?_⟩
  · rw [hlog]
    exact h.vacated.concat hgone event
  · rw [hlog, memoryLength_concat, hsize]
    rfl

/-- So between the beginning of a coroutine and its end nothing happens to the memory. -/
theorem Attended.ofMemory_eq_false {run : Run ρ σ} (h : run.Attended) {living : List Ticket}
    {begun : Nat} (hchronicle : Chronicle run.history living begun) {ticket : Ticket}
    {before life after : List Event} (hlog : run.log = before ++ .begun ticket :: (life ++ after))
    (halive : .destroyed ticket ∉ life) : ∀ event ∈ life, event.ofMemory = false := by
  intro event hmem
  by_contra hmemory
  rw [Bool.not_eq_false] at hmemory
  obtain ⟨front, back, rfl⟩ := List.append_of_mem hmem
  -- at the event the coroutine has been begun, so it would have been destroyed already
  have hgone : .destroyed ticket ∈ before ++ .begun ticket :: front := by
    refine h.vacated _ event (back ++ after) ?_ hmemory ticket
      (List.mem_append_right _ List.mem_cons_self)
    rw [hlog, List.append_assoc, List.append_assoc]
    rfl
  rcases List.mem_append.mp hgone with hbefore | hfront
  · -- but nothing happens to a coroutine before it is begun
    have hsplit : run.history = before.filter Event.ofCoroutine ++ .begun ticket ::
        (front ++ event :: back ++ after).filter Event.ofCoroutine := by
      change run.log.filter Event.ofCoroutine = _
      rw [hlog, List.filter_append, List.filter_cons_of_pos rfl]
    have hdestroyed : Event.destroyed ticket ∈ before.filter Event.ofCoroutine :=
      List.mem_filter.mpr ⟨hbefore, rfl⟩
    rw [← Ticket.destroyed_mem_life, hchronicle.life_before_eq_nil hsplit] at hdestroyed
    cases hdestroyed
  · rcases List.mem_cons.mp hfront with heq | hfront
    · cases heq
    · exact halive (List.mem_append_left _ hfront)

theorem Attended.reserveMemory {run : Run ρ σ} (h : run.Attended) (hgone : Deserted run.log)
    (hsound : run.thread.memory.Sound) (size : Nat) : (run.reserveMemory size).2.Attended := by
  rw [Run.reserveMemory]
  split
  · exact h
  · next length _ =>
      rw [Block.reserve]
      by_cases hfits : length ≤ run.thread.memory.size
      · rw [if_pos hfits]
        exact h
      · rw [if_neg hfits, hsound.align_eq, Block.allocate_eq]
        by_cases hle : length ≤ maxMemory
        · rw [if_pos hle]
          exact h.replace hgone _ fun _ => (Bytes.size_zeros length).symm
        · rw [if_neg hle]
          exact h

/-- Once the queue is discarded, nobody is alive. -/
theorem Keeps.discard {run : Run ρ σ} {past : List Event} (h : run.Keeps past [])
    (backend : Backend ρ σ) :
    ∃ cleared, run.discard backend = (.ok (), cleared) ∧ cleared.thread.memory.Sound
      ∧ Deserted cleared.log := by
  obtain ⟨view, hshows, -, hliving⟩ := h
  obtain ⟨cleared, hdiscard, hcleared⟩ := hshows.discard_eq backend
  have hgone : Chronicle cleared.history [] view.begun := by
    rw [hcleared.history, View.history_discard]
    refine Chronicle.destroyAll ?_
    rwa [List.append_nil]
  refine ⟨cleared, hdiscard, hcleared.memory, (deserted_log_iff cleared).mpr ?_⟩
  exact fun ticket hbegun => (hgone.ended List.not_mem_nil hbegun).mem.2

theorem Attended.dispatch {run : Run ρ σ} (h : run.Attended) (hkeeps : run.Keeps [] [])
    (backend : Backend ρ σ) (context : Context ρ σ) (index : Nat) :
    (context.dispatch backend index run).2.Attended := by
  by_cases haccept : context.program.isSome ∧ index < context.threads
  · obtain ⟨program, hprogram⟩ := Option.isSome_iff_exists.mp haccept.1
    obtain ⟨cleared, hdiscard, hsound, hgone⟩ := hkeeps.discard backend
    have hcleared : Reaches backend program context.constants run (run.discard backend).2 :=
      reaches_discard run
    rw [hdiscard] at hcleared
    have hready := (h.quiet hcleared.quiet).reserveMemory hgone hsound context.memorySize
    obtain ⟨last, hlast, heq | ⟨stats, heq⟩⟩ :=
      dispatch_reaches hprogram haccept.2 hdiscard
    · rw [heq]
      exact hready.quiet hlast.quiet
    · rw [heq]
      exact (hready.quiet hlast.quiet).quiet (quiet_record last rfl)
  · obtain ⟨refusal, heq⟩ := dispatch_of_refused backend haccept run
    rw [heq]
    exact h

theorem quiet_foldl_destroy (backend : Backend ρ σ) (list : List (Coroutine ρ)) :
    ∀ run : Run ρ σ, run.Quiet (list.foldl (Run.destroy backend) run) := by
  induction list with
  | nil => exact Quiet.refl
  | cons coroutine rest ih => exact fun run => (quiet_destroy backend run coroutine).trans (ih _)

theorem Attended.release {run : Run ρ σ} (h : run.Attended) (hkeeps : run.Keeps [] [])
    (backend : Backend ρ σ) : (run.release backend).Attended := by
  have hfolded : run.Quiet
      (run.thread.queue.slotOrder.foldl (Run.destroy backend) (run.withQueue .empty)) :=
    (run.quiet_withQueue .empty).trans (quiet_foldl_destroy backend _ _)
  refine (h.quiet hfolded).replace ?_ _ fun _ => rfl
  -- the history afterwards differs by an event that is about no coroutine
  obtain ⟨⟨view, hshows, -, hliving⟩, hempty, -⟩ := hkeeps.release backend
  have hchronicle : Chronicle (run.release backend).history [] view.begun := by
    rw [List.nil_append, ← hshows.queued_eq, hempty, ← hshows.history] at hliving
    exact hliving
  rw [Run.release, history_record_other _ rfl] at hchronicle
  rw [deserted_log_iff]
  exact fun ticket hbegun => (hchronicle.ended List.not_mem_nil hbegun).mem.2

end Run

/-! ## Histories -/

namespace Operation

theorem attended_perform {run : Run ρ σ} (h : run.Attended) (hkeeps : run.Keeps [] [])
    (backend : Backend ρ σ) (operation : Operation ρ σ) :
    (operation.perform backend run).Attended := by
  cases operation with
  | dispatch context index => exact h.dispatch hkeeps backend context index
  | release => exact h.release hkeeps backend
  | meanwhile shared => exact ⟨h.vacated, h.size_eq⟩

theorem attended_performAll (backend : Backend ρ σ) (operations : List (Operation ρ σ)) :
    ∀ {run : Run ρ σ}, run.Attended → run.Keeps [] [] →
      (performAll backend operations run).Attended := by
  induction operations with
  | nil => exact fun h _ => h
  | cons operation rest ih =>
      exact fun h hkeeps => ih (attended_perform h hkeeps backend operation)
        (keeps_perform hkeeps backend operation)

theorem attended_fresh (shared : σ) : (Run.fresh shared : Run ρ σ).Attended := by
  refine ⟨fun past event later heq => ?_, rfl⟩
  cases past <;> cases heq

end Operation

end GridDispatch
