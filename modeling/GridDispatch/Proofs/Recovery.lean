/-
Recovery: what is left of an earlier dispatch has no influence on the next one.

Two runs of the same dispatch are compared, one on a thread with any past whatever, the
other on a thread that has run nothing. Their queues lie differently in rings of different
sizes, their memories differ in length and contents, and their coroutines are numbered
differently. A program that does not look at the memory cannot tell them apart
(`Program.Indifferent`), and what is proved is that neither can anyone who looks at the
events and at the answer.

The relation between the runs is `Mirrors`. It says that queues, scenes and histories
correspond, one past being put in front and serial numbers being shifted by the number of
coroutines that the past had begun. It also counts how many coroutines may still be queued
before the queue would be longer than that of a workgroup, because putting them into a ring
must not be what makes a difference. With all of them still to come, the queue is empty.
Every step keeps the relation and answers the same on both sides (`Agree`).
-/
import GridDispatch.Proofs.History
import GridDispatch.Proofs.Prepared
import Mathlib.Data.List.Forall2

set_option autoImplicit false

namespace GridDispatch

variable {ρ σ : Type}

/-! ## Programs that do not look at the memory -/

/-- Both begin a coroutine, and their states are alike, or both fault in the same way. -/
def AlikeAnswers (alike : ρ → ρ → Prop) : Except Fault ρ → Except Fault ρ → Prop
  | .ok state, .ok other => alike state other
  | .error fault, .error other => fault = other
  | _, _ => False

theorem AlikeAnswers.refl (answer : Except Fault ρ) : AlikeAnswers Eq answer answer := by
  cases answer with
  | error fault => exact rfl
  | ok state => exact rfl

theorem AlikeAnswers.cases {alike : ρ → ρ → Prop} {answer other : Except Fault ρ}
    (h : AlikeAnswers alike answer other) :
    (∃ fault, answer = .error fault ∧ other = .error fault)
      ∨ ∃ state twin, answer = .ok state ∧ other = .ok twin ∧ alike state twin := by
  cases answer with
  | error fault =>
      cases other with
      | error fault' =>
          obtain rfl : fault = fault' := h
          exact .inl ⟨fault, rfl, rfl⟩
      | ok twin => exact h.elim
  | ok state =>
      cases other with
      | error fault => exact h.elim
      | ok twin => exact .inr ⟨state, twin, rfl, rfl, h⟩

/-- What the program and its coroutines do does not depend on the workgroup memory: from
states that are alike, and from the same shared things, the same comes about. -/
structure Program.Indifferent (program : Program ρ σ) (backend : Backend ρ σ)
    (constants : Constants) (alike : ρ → ρ → Prop) (same : σ → σ → Prop) : Prop where
  start : ∀ workgroup subgroups (scene other : Scene σ), same scene.shared other.shared →
    AlikeAnswers alike (program.start constants workgroup subgroups scene).1
        (program.start constants workgroup subgroups other).1
      ∧ same (program.start constants workgroup subgroups scene).2.shared
        (program.start constants workgroup subgroups other).2.shared
  resume : ∀ state twin (scene other : Scene σ), alike state twin →
    same scene.shared other.shared →
    (backend.resume state scene).answer = (backend.resume twin other).answer
      ∧ alike (backend.resume state scene).state (backend.resume twin other).state
      ∧ same (backend.resume state scene).scene.shared (backend.resume twin other).scene.shared
  destroy : ∀ state twin (scene other : Scene σ), alike state twin →
    same scene.shared other.shared →
    same (backend.destroy state scene).shared (backend.destroy twin other).shared

/-! ## Counting from a later beginning -/

/-- The same coroutine on a thread that had begun so many more. -/
def Ticket.shift (offset : Nat) (ticket : Ticket) : Ticket :=
  { ticket with serial := offset + ticket.serial }

/-- The same event on a thread that had begun so many more coroutines. -/
def Event.shift (offset : Nat) : Event → Event
  | .begun ticket => .begun (ticket.shift offset)
  | .resumed ticket answer => .resumed (ticket.shift offset) answer
  | .destroyed ticket => .destroyed (ticket.shift offset)
  | event => event

/-! ## The relation -/

/-- How the first of two runs corresponds to the second. -/
structure Pairing (ρ σ : Type) where
  alike : ρ → ρ → Prop
  same : σ → σ → Prop
  /-- What happened on the first thread before. -/
  past : List Event
  /-- How many coroutines had been begun on it. -/
  offset : Nat

namespace Pairing

/-- The same coroutine in both runs. -/
def Twins (pairing : Pairing ρ σ) (coroutine twin : Coroutine ρ) : Prop :=
  coroutine.ticket = twin.ticket.shift pairing.offset ∧ pairing.alike coroutine.state twin.state

/-- The views correspond, and so many coroutines may still be queued. -/
structure Mirrors (pairing : Pairing ρ σ) (room : Nat) (view fresh : View ρ σ) : Prop where
  queue : List.Forall₂ pairing.Twins view.queue fresh.queue
  room : fresh.queue.length + room ≤ Context.maxSubgroups
  shared : pairing.same view.scene.shared fresh.scene.shared
  begun : view.begun = pairing.offset + fresh.begun
  history : view.history = pairing.past ++ fresh.history.map (Event.shift pairing.offset)

/-- Two runs whose views correspond. -/
def Mirrored (pairing : Pairing ρ σ) (room : Nat) (run fresh : Run ρ σ) : Prop :=
  ∃ view view', run.Shows view ∧ fresh.Shows view' ∧ pairing.Mirrors room view view'

/-- The same answer, and two such runs after it. -/
def Agree {α : Type} (pairing : Pairing ρ σ) (room : Nat)
    (outcome fresh : Except Fault α × Run ρ σ) : Prop :=
  outcome.1 = fresh.1 ∧ pairing.Mirrored room outcome.2 fresh.2

/-- They agree, and if the answer is a good one, there is room for a whole workgroup again. -/
def Renewed {α : Type} (pairing : Pairing ρ σ)
    (outcome fresh : Except Fault α × Run ρ σ) : Prop :=
  pairing.Agree 0 outcome fresh
    ∧ ∀ value, outcome.1 = .ok value →
      pairing.Mirrored Context.maxSubgroups outcome.2 fresh.2

variable {pairing : Pairing ρ σ} {room : Nat} {run fresh : Run ρ σ} {view view' : View ρ σ}

theorem Mirrored.mono (h : pairing.Mirrored room run fresh) {less : Nat} (hle : less ≤ room) :
    pairing.Mirrored less run fresh := by
  obtain ⟨view, view', hshows, hshows', hmirrors⟩ := h
  exact ⟨view, view', hshows, hshows',
    { hmirrors with room := Nat.le_trans (Nat.add_le_add_left hle _) hmirrors.room }⟩

/-- The two ways to agree. -/
theorem Agree.cases {α : Type} {outcome outcome' : Except Fault α × Run ρ σ}
    (h : pairing.Agree room outcome outcome') :
    (∃ fault after after', outcome = (.error fault, after) ∧ outcome' = (.error fault, after')
        ∧ pairing.Mirrored room after after')
      ∨ ∃ value after after', outcome = (.ok value, after) ∧ outcome' = (.ok value, after')
        ∧ pairing.Mirrored room after after' := by
  obtain ⟨answer, after⟩ := outcome
  obtain ⟨answer', after'⟩ := outcome'
  obtain ⟨hanswer, hafter⟩ := h
  obtain rfl : answer = answer' := hanswer
  cases answer with
  | error fault => exact .inl ⟨fault, after, after', rfl, rfl, hafter⟩
  | ok value => exact .inr ⟨value, after, after', rfl, rfl, hafter⟩

theorem Mirrored.renewed_error {α : Type} (h : pairing.Mirrored room run fresh) (fault : Fault) :
    pairing.Renewed ((.error fault, run) : Except Fault α × Run ρ σ) (.error fault, fresh) :=
  ⟨⟨rfl, h.mono (Nat.zero_le room)⟩, by rintro _ ⟨⟩⟩

theorem Mirrored.renewed_ok {α : Type} (h : pairing.Mirrored Context.maxSubgroups run fresh)
    (value : α) : pairing.Renewed (.ok value, run) (.ok value, fresh) :=
  ⟨⟨rfl, h.mono (Nat.zero_le _)⟩, fun _ _ => h⟩

/-- The two ways to agree and to have room again. -/
theorem Renewed.cases {α : Type} {outcome outcome' : Except Fault α × Run ρ σ}
    (h : pairing.Renewed outcome outcome') :
    (∃ fault after after', outcome = (.error fault, after) ∧ outcome' = (.error fault, after')
        ∧ pairing.Mirrored 0 after after')
      ∨ ∃ value after after', outcome = (.ok value, after) ∧ outcome' = (.ok value, after')
        ∧ pairing.Mirrored Context.maxSubgroups after after' := by
  obtain ⟨hagree, hroom⟩ := h
  rcases hagree.cases with hfault | ⟨value, after, after', heq, heq', -⟩
  · exact .inl hfault
  · rw [heq, heq'] at hroom
    exact .inr ⟨value, after, after', heq, heq', hroom value rfl⟩

/-- An action on both sides. -/
theorem Mirrors.adopt (h : pairing.Mirrors room view view') {scene other : Scene σ}
    (hsame : pairing.same scene.shared other.shared) :
    pairing.Mirrors room (view.adopt scene) (view'.adopt other) :=
  { h with shared := hsame }

/-- The same event on both sides. -/
theorem Mirrors.note (h : pairing.Mirrors room view view') (event : Event) :
    pairing.Mirrors room (view.note (event.shift pairing.offset)) (view'.note event) := by
  refine { h with history := ?_ }
  rw [View.note, h.history, View.note, List.map_append, List.append_assoc]
  rfl

/-- A new coroutine on both sides. -/
theorem Mirrors.begin (h : pairing.Mirrors room view view') (ticket : Ticket) :
    pairing.Mirrors room (view.begin (ticket.shift pairing.offset)) (view'.begin ticket) := by
  have hnoted := h.note (.begun ticket)
  refine { hnoted with begun := ?_ }
  rw [View.begin, h.begun, View.begin, Nat.add_assoc]

/-- The same coroutine behind both queues. -/
theorem Mirrors.enqueue (h : pairing.Mirrors (room + 1) view view') {coroutine twin : Coroutine ρ}
    (htwins : pairing.Twins coroutine twin) :
    pairing.Mirrors room (view.enqueue coroutine) (view'.enqueue twin) := by
  refine { h with queue := ?_, room := ?_ }
  · exact List.rel_append h.queue (.cons htwins .nil)
  · rw [View.enqueue, List.length_append, List.length_singleton, Nat.add_assoc, Nat.add_comm 1]
    exact h.room

/-! ## Single steps -/

variable {program : Program ρ σ} {backend : Backend ρ σ} {constants : Constants}
  {coroutine twin : Coroutine ρ}

theorem Mirrors.destroy (h : pairing.Mirrors room view view')
    (hind : program.Indifferent backend constants pairing.alike pairing.same)
    (htwins : pairing.Twins coroutine twin) :
    pairing.Mirrors room (view.destroy backend coroutine) (view'.destroy backend twin) := by
  obtain ⟨hticket, halike⟩ := htwins
  rw [View.destroy, hticket]
  exact (h.adopt (hind.destroy _ _ _ _ halike h.shared)).note (.destroyed twin.ticket)

theorem Mirrored.destroy (h : pairing.Mirrored room run fresh)
    (hind : program.Indifferent backend constants pairing.alike pairing.same)
    (htwins : pairing.Twins coroutine twin) :
    pairing.Mirrored room (run.destroy backend coroutine) (fresh.destroy backend twin) := by
  obtain ⟨view, view', hshows, hshows', hmirrors⟩ := h
  exact ⟨_, _, hshows.destroy backend coroutine, hshows'.destroy backend twin,
    hmirrors.destroy hind htwins⟩

/-- There is room in both rings. -/
theorem Mirrored.enqueue (h : pairing.Mirrored (room + 1) run fresh)
    (htwins : pairing.Twins coroutine twin) :
    pairing.Agree room (run.enqueue backend coroutine) (fresh.enqueue backend twin) := by
  obtain ⟨view, view', hshows, hshows', hmirrors⟩ := h
  have hroom' : view'.queue.length ≤ Context.maxSubgroups :=
    Nat.le_trans (Nat.le_add_right _ _) hmirrors.room
  have hroom : view.queue.length ≤ Context.maxSubgroups := by
    rwa [hmirrors.queue.length_eq]
  obtain ⟨after, heq, hafter⟩ :=
    hshows.enqueue_eq backend coroutine (Context.room_of_le hroom)
  obtain ⟨after', heq', hafter'⟩ :=
    hshows'.enqueue_eq backend twin (Context.room_of_le hroom')
  rw [heq, heq']
  exact ⟨rfl, _, _, hafter, hafter', hmirrors.enqueue htwins⟩

theorem Mirrored.spawn (h : pairing.Mirrored (room + 1) run fresh)
    (hind : program.Indifferent backend constants pairing.alike pairing.same)
    (workgroup : Coord) (subgroups : Subgroups) :
    pairing.Agree room (run.spawn backend program constants workgroup subgroups)
      (fresh.spawn backend program constants workgroup subgroups) := by
  obtain ⟨view, view', hshows, hshows', hmirrors⟩ := h
  obtain ⟨hanswers, hshared⟩ :=
    hind.start workgroup subgroups view.scene view'.scene hmirrors.shared
  have hacted := hmirrors.adopt hshared
  rcases hanswers.cases with ⟨fault, hstart, hstart'⟩ | ⟨state, twin, hstart, hstart', halike⟩
  · obtain ⟨after, heq, hafter⟩ := hshows.spawn_error backend hstart
    obtain ⟨after', heq', hafter'⟩ := hshows'.spawn_error backend hstart'
    rw [heq, heq']
    exact ⟨rfl, Mirrored.mono ⟨_, _, hafter, hafter', hacted⟩ (Nat.le_succ room)⟩
  · obtain ⟨ready, heq, hready⟩ := hshows.spawn_ok backend hstart
    obtain ⟨ready', heq', hready'⟩ := hshows'.spawn_ok backend hstart'
    have hticket : (⟨view.begun, workgroup, subgroups⟩ : Ticket)
        = Ticket.shift pairing.offset ⟨view'.begun, workgroup, subgroups⟩ := by
      rw [hmirrors.begun]
      rfl
    rw [hticket] at heq hready
    rw [heq, heq']
    exact Mirrored.enqueue ⟨_, _, hready, hready', hacted.begin _⟩ ⟨rfl, halike⟩

theorem Mirrored.resume (h : pairing.Mirrored (room + 1) run fresh)
    (hind : program.Indifferent backend constants pairing.alike pairing.same)
    (htwins : pairing.Twins coroutine twin) :
    pairing.Agree room (run.resume backend coroutine) (fresh.resume backend twin) := by
  obtain ⟨view, view', hshows, hshows', hmirrors⟩ := h
  obtain ⟨hticket, halike⟩ := htwins
  obtain ⟨hanswer, hstates, hshared⟩ :=
    hind.resume coroutine.state twin.state view.scene view'.scene halike hmirrors.shared
  obtain ⟨acted, hacted, heq⟩ := hshows.resume_eq backend coroutine
  obtain ⟨acted', hacted', heq'⟩ := hshows'.resume_eq backend twin
  have hnoted := (hmirrors.adopt hshared).note (.resumed twin.ticket
    (backend.resume twin.state view'.scene).answer)
  rw [hanswer, hticket] at hacted
  have hmirrored : pairing.Mirrored (room + 1) acted acted' := ⟨_, _, hacted, hacted', hnoted⟩
  have htwins : pairing.Twins
      { coroutine with state := (backend.resume coroutine.state view.scene).state }
      { twin with state := (backend.resume twin.state view'.scene).state } :=
    ⟨hticket, hstates⟩
  rw [heq, heq', hanswer]
  cases (backend.resume twin.state view'.scene).answer with
  | error fault => exact ⟨rfl, (hmirrored.destroy hind htwins).mono (Nat.le_succ room)⟩
  | ok progress =>
      cases progress with
      | waiting => exact hmirrored.enqueue htwins
      | ended => exact ⟨rfl, (hmirrored.destroy hind htwins).mono (Nat.le_succ room)⟩

/-! ## Loops -/

theorem Mirrored.spawnFrom (hind : program.Indifferent backend constants pairing.alike pairing.same)
    (workgroup : Coord) (part : Nat → Subgroups) (count : Nat) :
    ∀ {run fresh : Run ρ σ} (index : Nat), pairing.Mirrored count run fresh →
      pairing.Agree 0 (run.spawnFrom backend program constants workgroup part index count)
        (fresh.spawnFrom backend program constants workgroup part index count) := by
  induction count with
  | zero => exact fun _ h => ⟨rfl, h⟩
  | succ count ih =>
      intro run fresh index h
      rw [Run.spawnFrom, Run.spawnFrom]
      rcases (h.spawn hind workgroup (part index)).cases with
        ⟨fault, after, after', heq, heq', hafter⟩ | ⟨done, after, after', heq, heq', hafter⟩
      · rw [heq, heq']
        exact ⟨rfl, hafter.mono (Nat.zero_le _)⟩
      · rw [heq, heq']
        exact ih (index + 1) hafter

/-- Both queues are drained in the same way, and if that succeeds they are empty, so that
there is room again for a whole workgroup. -/
theorem Mirrored.drain {run fresh : Run ρ σ} (h : pairing.Mirrored 0 run fresh)
    (hind : program.Indifferent backend constants pairing.alike pairing.same) (count : Nat) :
    pairing.Renewed (run.drain backend count) (fresh.drain backend count) := by
  obtain ⟨view, view', hshows, hshows', hmirrors⟩ := h
  cases hview : view'.queue with
  | nil =>
      have hnone := hmirrors.queue
      rw [hview] at hnone
      obtain ⟨after, heq, hafter⟩ :=
        hshows.drain_nil backend (List.forall₂_nil_right_iff.mp hnone) count
      obtain ⟨after', heq', hafter'⟩ := hshows'.drain_nil backend hview count
      have hroom : view'.queue.length + Context.maxSubgroups ≤ Context.maxSubgroups := by
        rw [hview, List.length_nil, Nat.zero_add]
      rw [heq, heq']
      exact Mirrored.renewed_ok ⟨_, _, hafter, hafter', { hmirrors with room := hroom }⟩ count
  | cons twin rest' =>
      have hsome := hmirrors.queue
      have hroom := hmirrors.room
      rw [hview] at hsome hroom
      obtain ⟨coroutine, rest, htwins, hrest, hqueue⟩ := List.forall₂_cons_right_iff.mp hsome
      -- with the front coroutines taken there is room for one, which is where they go back to
      have hfront : pairing.Mirrors 1 { view with queue := rest } { view' with queue := rest' } :=
        { hmirrors with queue := hrest, room := hroom }
      by_cases hlt : count + 1 < word
      · obtain ⟨taken, htaken, heq⟩ := hshows.drain_cons backend hqueue hlt
        obtain ⟨taken', htaken', heq'⟩ := hshows'.drain_cons backend hview hlt
        have hmirrored : pairing.Mirrored (0 + 1) taken taken' := ⟨_, _, htaken, htaken', hfront⟩
        rw [heq, heq']
        rcases (hmirrored.resume hind htwins).cases with
          ⟨fault, after, after', hone, hone', hafter⟩ | ⟨done, after, after', hone, hone', hafter⟩
        · rw [hone, hone']
          exact hafter.renewed_error fault
        · rw [hone, hone']
          exact Mirrored.drain hafter hind (count + 1)
      · obtain ⟨after, heq, hafter⟩ := hshows.drain_limit backend hqueue (Nat.not_lt.mp hlt)
        obtain ⟨after', heq', hafter'⟩ := hshows'.drain_limit backend hview (Nat.not_lt.mp hlt)
        have hmirrored : pairing.Mirrored 1 after after' :=
          ⟨_, _, hafter, hafter', hfront.destroy hind htwins⟩
        rw [heq, heq']
        exact hmirrored.renewed_error _
termination_by word - count
decreasing_by omega

/-! ## A dispatch -/

theorem Mirrored.runWorkgroup (h : pairing.Mirrored Context.maxSubgroups run fresh)
    {context : Context ρ σ}
    (hind : program.Indifferent backend context.constants pairing.alike pairing.same)
    (hshort : context.coroutineCount ≤ Context.maxSubgroups) (stats : Stats) (workgroup : Coord) :
    pairing.Renewed (context.runWorkgroup backend program stats run workgroup)
      (context.runWorkgroup backend program stats fresh workgroup) := by
  rw [Context.runWorkgroup, Context.runWorkgroup]
  cases Checked.add word stats.workgroups 1 with
  | error fault => exact h.renewed_error fault
  | ok workgroups =>
      dsimp only
      rcases (Mirrored.spawnFrom hind workgroup context.coroutinePart context.coroutineCount 0
        (h.mono hshort)).cases with
        ⟨fault, begun, begun', heq, heq', hbegun⟩ | ⟨done, begun, begun', heq, heq', hbegun⟩
      · rw [heq, heq']
        exact hbegun.renewed_error fault
      · rw [heq, heq']
        cases Checked.add word stats.coroutines context.coroutineCount with
        | error fault => exact hbegun.renewed_error fault
        | ok coroutines =>
            dsimp only
            rcases (Mirrored.drain hbegun hind stats.resumptions).cases with
              ⟨fault, last, last', hone, hone', hlast⟩ | ⟨total, last, last', hone, hone', hlast⟩
            · rw [hone, hone']
              exact hlast.renewed_error fault
            · rw [hone, hone']
              exact hlast.renewed_ok _

theorem Mirrored.runFrom {context : Context ρ σ}
    (hind : program.Indifferent backend context.constants pairing.alike pairing.same)
    (hshort : context.coroutineCount ≤ Context.maxSubgroups) (thread count : Nat) :
    ∀ {run fresh : Run ρ σ} (stats : Stats) (place : Nat),
      pairing.Mirrored Context.maxSubgroups run fresh →
      pairing.Renewed (context.runFrom backend program thread stats run place count)
        (context.runFrom backend program thread stats fresh place count) := by
  induction count with
  | zero => exact fun stats _ h => h.renewed_ok stats
  | succ count ih =>
      intro run fresh stats place h
      rw [Context.runFrom, Context.runFrom]
      rcases (h.runWorkgroup hind hshort stats (context.shareAt thread place)).cases with
        ⟨fault, after, after', heq, heq', hafter⟩ | ⟨total, after, after', heq, heq', hafter⟩
      · rw [heq, heq']
        exact hafter.renewed_error fault
      · rw [heq, heq']
        exact ih total (place + 1) hafter

/-- Two views with empty queues correspond, one past being all that tells them apart. -/
theorem mirrors_of_empty {past : List Event} {offset : Nat} {alike : ρ → ρ → Prop}
    {same : σ → σ → Prop} {scene other : Scene σ} (hsame : same scene.shared other.shared) :
    Mirrors ⟨alike, same, past, offset⟩ Context.maxSubgroups ⟨[], scene, offset, past⟩
      ⟨[], other, 0, []⟩ :=
  ⟨.nil, Nat.le_of_eq (Nat.zero_add _), hsame, rfl, (List.append_nil past).symm⟩

end Pairing

/-- **Recovery is complete.** On a thread with any past, a dispatch that is accepted first
destroys what was left in the queue, each coroutine once and in the order of the queue, and
after that the same coroutines are begun, resumed and destroyed, with the same answers and
in the same order, as in the same dispatch on a thread that has run nothing; and it answers
the same, be it with the work done or with a fault. Coroutines differ in their serial
numbers only, which are counted on from those the thread has used. -/
theorem Context.dispatch_recovers {context : Context ρ σ} {program : Program ρ σ}
    {backend : Backend ρ σ} {thread : Nat} {run : Run ρ σ} {shared : σ} {alike : ρ → ρ → Prop}
    {same : σ → σ → Prop} (hcontext : context.Reachable)
    (hprogram : context.program = some program) (hthread : thread < context.threads)
    (hrun : run.thread.Reachable backend)
    (hind : program.Indifferent backend context.constants alike same)
    (hshared : same (run.discard backend).2.shared shared) :
    run.queued.Nodup
    ∧ (∀ ticket ∈ run.queued, ticket.serial < run.thread.begun)
    ∧ (context.dispatch backend thread run).1
      = (context.dispatch backend thread (.fresh shared)).1
    ∧ (context.dispatch backend thread run).2.history
      = run.history ++ run.queued.map .destroyed
        ++ (context.dispatch backend thread (.fresh shared)).2.history.map
          (Event.shift run.thread.begun) := by
  obtain ⟨queue, hshows, hnodup, hserial⟩ := hrun.shows
  have hfresh : (Run.fresh shared : Run ρ σ).Shows ⟨[], ⟨#[], shared⟩, 0, []⟩ :=
    Run.shows_fresh shared
  obtain ⟨cleared, hdiscard, hcleared⟩ := hshows.discard_eq backend
  have hscene : cleared.shared = (View.discard backend
      ⟨queue, run.scene, run.thread.begun, run.history⟩).scene.shared :=
    congrArg Scene.shared hcleared.scene
  rw [hdiscard, hscene] at hshared
  refine ⟨by rwa [hshows.queued_eq], by rwa [hshows.queued_eq], ?_⟩
  cases hmemory : memoryFault context.memorySize with
  | some fault =>
      obtain ⟨after, heq, hafter⟩ :=
        hshows.dispatch_of_memoryFault backend hprogram hthread hmemory
      obtain ⟨after', heq', hafter'⟩ :=
        hfresh.dispatch_of_memoryFault backend hprogram hthread hmemory
      rw [heq, heq']
      refine ⟨rfl, ?_⟩
      rw [hafter.history, hafter'.history, hshows.history_discard backend]
      exact (List.append_nil _).symm
  | none =>
      obtain ⟨ready, bytes, -, hready, heq⟩ :=
        hshows.dispatch_of_memory backend hprogram hthread hmemory
      obtain ⟨ready', bytes', -, hready', heq'⟩ :=
        hfresh.dispatch_of_memory backend hprogram hthread hmemory
      -- both threads have an empty queue now, and the first one its past behind it
      dsimp only at hready
      rw [View.queue_discard, View.begun_discard, hshows.history_discard backend] at hready
      have hagree := Pairing.Mirrored.runFrom hind hcontext.coroutineCount_le thread
        (context.shareSize thread) .zero 0
        ⟨_, _, hready, hready', Pairing.mirrors_of_empty hshared⟩
      rw [heq, heq']
      rcases hagree.cases with
        ⟨fault, after, after', hone, hone', view, view', hafter, hafter', hlast⟩
          | ⟨stats, after, after', hone, hone', view, view', hafter, hafter', hlast⟩
      · rw [hone, hone']
        refine ⟨rfl, ?_⟩
        rw [hafter.history, hlast.history, hafter'.history]
      · rw [hone, hone']
        refine ⟨rfl, ?_⟩
        rw [Run.history_record_other after rfl, Run.history_record_other after' rfl,
          hafter.history, hlast.history, hafter'.history]

/-- A program that cannot begin the coroutine of a certain subgroup. -/
def briefProgram (missing : Nat) : Program Unit Unit where
  info := ⟨20, true, 0, ⟨12, 1, 1⟩⟩
  start _ _ subgroups scene :=
    (if subgroups.first = missing then .error .outOfRange else .ok (), scene)

/-- One workgroup of three coroutines on one thread. -/
def briefContext (missing : Nat) : Context Unit Unit :=
  (Context.initial.prepare 1 (briefProgram missing) #[] ⟨1, 1, 1⟩).2

/-- A thread on which the last coroutine of a workgroup could not be begun, so that two are
left in the queue, runs the same workgroup of a program that can. -/
theorem Context.dispatch_recovers_brief :
    let run := Operation.performAll (idle Unit) [.dispatch (briefContext 2) 0] (.fresh ())
    ((briefContext 3).Reachable ∧ (briefContext 3).program = some (briefProgram 3)
      ∧ 0 < (briefContext 3).threads ∧ run.thread.Reachable (idle Unit)
      ∧ (briefProgram 3).Indifferent (idle Unit) (briefContext 3).constants Eq Eq
      ∧ (run.discard (idle Unit)).2.shared = ())
    ∧ run.queued.Nodup
    ∧ (∀ ticket ∈ run.queued, ticket.serial < run.thread.begun)
    ∧ ((briefContext 3).dispatch (idle Unit) 0 run).1
      = ((briefContext 3).dispatch (idle Unit) 0 (.fresh ())).1
    ∧ ((briefContext 3).dispatch (idle Unit) 0 run).2.history
      = run.history ++ run.queued.map .destroyed
        ++ ((briefContext 3).dispatch (idle Unit) 0 (.fresh ())).2.history.map
          (Event.shift run.thread.begun) := by
  have hcontext : (briefContext 3).Reachable := .prepare _ _ _ _ .initial
  have hthread : Thread.Reachable (idle Unit)
      (Operation.performAll (idle Unit) [.dispatch (briefContext 2) 0] (.fresh ())).thread :=
    ⟨(), [.dispatch (briefContext 2) 0], rfl⟩
  have hind : (briefProgram 3).Indifferent (idle Unit) (briefContext 3).constants Eq Eq := by
    exact ⟨fun _ _ _ _ _ => ⟨.refl _, rfl⟩, fun _ _ _ _ _ _ => ⟨rfl, rfl, rfl⟩,
      fun _ _ _ _ _ _ => rfl⟩
  exact ⟨⟨hcontext, rfl, by decide, hthread, hind, rfl⟩,
    Context.dispatch_recovers hcontext rfl (by decide) hthread hind rfl⟩

end GridDispatch
