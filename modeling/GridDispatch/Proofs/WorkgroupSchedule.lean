/-
The schedule of a workgroup.

What a thread does for one workgroup is decided by two loops, one that begins coroutines
and one that takes them from a ring and puts them back. Here they are shown to produce the
events one would write down: all coroutines are begun in order, and then they are resumed
in rounds until each has waited as often as it does (`Lineup.schedule`). The rounds were
found in `Turns`, where the numbers of waits are given beforehand. A program does not give
them beforehand: how often a coroutine waits may depend on what the others did to the scene
in the meantime. So the numbers come out of the run, and what the theorems say about them
is that they are the right ones wherever a coroutine leaves no choice (`Backend.Waits`).

The only thing that can go wrong for a program that is asked for nothing but what it can do
is that the resumptions can no longer be counted. Then the loop stops with a fault in the
middle of the schedule, and `Lineup.turnsUpTo` says where. `Lineup.course` is what happens
in a workgroup in either case, and `Lands` what is left then: an answer and a history, and
an empty queue if the answer is a good one. As long as there is something to count with, the
course is the schedule (`Lineup.course_eq_schedule`), and else it is cut short (`CutShort`).

The proofs go up the loops: `drain_lands` and `spawnFrom_eq` for the two of a workgroup,
and from them `runWorkgroup_lands`.
-/
import GridDispatch.Proofs.History
import GridDispatch.Proofs.Prepared
import GridDispatch.Proofs.Turns
import Mathlib.Data.List.Forall2

set_option autoImplicit false

namespace GridDispatch

variable {ρ σ : Type}

/-! ## Programs that do not fault -/

/-! A coroutine that has ended is never resumed again, so nothing has to be known of it but that it
can be destroyed; and a program is asked for nothing but what is `due`. -/

/-- In fine scenes coroutines wait or end, and leave a fine scene, at the latest once they are
destroyed. -/
structure Backend.Reliable (backend : Backend ρ σ) (fine : Scene σ → Prop) (own : ρ → Prop) :
    Prop where
  resume : ∀ state scene, own state → fine scene →
    let resumed := backend.resume state scene
    let kept := scene.keep resumed.scene
    (resumed.answer = .ok .waiting ∧ own resumed.state ∧ fine kept)
      ∨ (resumed.answer = .ok .ended ∧ fine (kept.keep (backend.destroy resumed.state kept)))

/-- The program begins what is due. -/
structure Program.Reliable (program : Program ρ σ) (backend : Backend ρ σ) (constants : Constants)
    (due : Coord → Subgroups → Prop) (fine : Scene σ → Prop) (own : ρ → Prop) : Prop
    extends backend.Reliable fine own where
  start : ∀ workgroup subgroups scene, due workgroup subgroups → fine scene → ∃ state,
    (program.start constants workgroup subgroups scene).1 = .ok state ∧ own state
      ∧ fine (scene.keep (program.start constants workgroup subgroups scene).2)

/-- In whatever fine scenes it is resumed, the coroutine waits so many times and then ends. -/
def Backend.Waits (backend : Backend ρ σ) (fine : Scene σ → Prop) : Nat → ρ → Prop
  | 0, state => ∀ scene, fine scene → (backend.resume state scene).answer = .ok .ended
  | waits + 1, state => ∀ scene, fine scene →
    (backend.resume state scene).answer = .ok .waiting
      ∧ backend.Waits fine waits (backend.resume state scene).state

variable {backend : Backend ρ σ} {program : Program ρ σ} {constants : Constants}
  {due : Coord → Subgroups → Prop} {fine : Scene σ → Prop} {own : ρ → Prop}

/-- In whatever fine scenes it is begun and resumed, the coroutine of these subgroups waits so
many times. -/
def Program.Waits (program : Program ρ σ) (backend : Backend ρ σ) (constants : Constants)
    (fine : Scene σ → Prop) (workgroup : Coord) (subgroups : Subgroups) (waits : Nat) : Prop :=
  ∀ scene state, fine scene →
    (program.start constants workgroup subgroups scene).1 = .ok state →
    backend.Waits fine waits state

/-- One that ends has no more to wait. -/
theorem Backend.Waits.eq_zero {scene : Scene σ} (hscene : fine scene) {waits : Nat} {state : ρ}
    (h : backend.Waits fine waits state)
    (hanswer : (backend.resume state scene).answer = .ok .ended) : waits = 0 := by
  cases waits with
  | zero => rfl
  | succ waits => cases hanswer.symm.trans (h scene hscene).1

/-- One that waits has once more to wait than afterwards. -/
theorem Backend.Waits.exists_eq_succ {scene : Scene σ} (hscene : fine scene) {waits : Nat}
    {state : ρ} (h : backend.Waits fine waits state)
    (hanswer : (backend.resume state scene).answer = .ok .waiting) :
    ∃ left, waits = left + 1 ∧ backend.Waits fine left (backend.resume state scene).state := by
  cases waits with
  | zero => cases hanswer.symm.trans (h scene hscene)
  | succ waits => exact ⟨waits, rfl, (h scene hscene).2⟩

/-- As long as there is a fine scene the number is determined. -/
theorem Backend.Waits.unique {scene : Scene σ} (hscene : fine scene) {waits : Nat} :
    ∀ {other : Nat} {state : ρ}, backend.Waits fine waits state →
      backend.Waits fine other state → waits = other := by
  induction waits with
  | zero => exact fun h hother => (hother.eq_zero hscene (h scene hscene)).symm
  | succ waits ih =>
      intro other state h hother
      obtain ⟨left, rfl, hleft⟩ := hother.exists_eq_succ hscene (h scene hscene).1
      rw [ih (h scene hscene).2 hleft]

/-- A coroutine of the queue, and its place in a lineup. -/
def Fits (backend : Backend ρ σ) (fine : Scene σ → Prop) (coroutine : Coroutine ρ)
    (member : Ticket × Nat) : Prop :=
  member.1 = coroutine.ticket ∧ ∀ waits, backend.Waits fine waits coroutine.state →
    member.2 = waits

/-- Its place, if it ends now. -/
theorem Fits.of_ended {scene : Scene σ} (hscene : fine scene) {coroutine : Coroutine ρ}
    (hanswer : (backend.resume coroutine.state scene).answer = .ok .ended) :
    Fits backend fine coroutine (coroutine.ticket, 0) :=
  ⟨rfl, fun _ hwaits => (hwaits.eq_zero hscene hanswer).symm⟩

/-- Its place, if it waits now, from its place in the queue behind. -/
theorem Fits.of_waiting {scene : Scene σ} (hscene : fine scene) {coroutine : Coroutine ρ}
    (hanswer : (backend.resume coroutine.state scene).answer = .ok .waiting) {waits : Nat}
    (h : ∀ left, backend.Waits fine left (backend.resume coroutine.state scene).state →
      waits = left) :
    Fits backend fine coroutine (coroutine.ticket, waits + 1) := by
  refine ⟨rfl, fun total htotal => ?_⟩
  obtain ⟨left, rfl, hleft⟩ := htotal.exists_eq_succ hscene hanswer
  exact congrArg (· + 1) (h left hleft)

/-- Every queue fits some lineup. -/
theorem exists_fits (backend : Backend ρ σ) {scene : Scene σ} (hscene : fine scene)
    (queue : List (Coroutine ρ)) : ∃ crew, List.Forall₂ (Fits backend fine) queue crew := by
  induction queue with
  | nil => exact ⟨[], .nil⟩
  | cons coroutine rest ih =>
      obtain ⟨crew, hcrew⟩ := ih
      by_cases hwaits : ∃ waits, backend.Waits fine waits coroutine.state
      · obtain ⟨waits, hwaits⟩ := hwaits
        exact ⟨(coroutine.ticket, waits) :: crew,
          .cons ⟨rfl, fun other hother => hwaits.unique hscene hother⟩ hcrew⟩
      -- it may wait forever, or it depends on the scenes; then any number will do
      · exact ⟨(coroutine.ticket, 0) :: crew,
          .cons ⟨rfl, fun other hother => absurd ⟨other, hother⟩ hwaits⟩ hcrew⟩

/-- The last coroutine of a queue stands last in the lineup. -/
theorem forall₂_concat_left {α β : Type} {r : α → β → Prop} {front : List α} {last : α} :
    ∀ {list : List β}, List.Forall₂ r (front ++ [last]) list →
      ∃ front' last', list = front' ++ [last'] ∧ List.Forall₂ r front front' ∧ r last last' := by
  induction front with
  | nil =>
      intro list h
      obtain ⟨last', rest, hlast, hrest, rfl⟩ := List.forall₂_cons_left_iff.mp h
      rw [List.forall₂_nil_left_iff.mp hrest]
      exact ⟨[], last', rfl, .nil, hlast⟩
  | cons first front ih =>
      intro list h
      obtain ⟨first', rest, hfirst, hrest, rfl⟩ := List.forall₂_cons_left_iff.mp h
      obtain ⟨front', last', rfl, hfront, hlast⟩ := ih hrest
      exact ⟨first' :: front', last', rfl, .cons hfirst hfront, hlast⟩

/-! ## Schedules -/

/-- The history stops somewhere on the schedule. If that is where a coroutine would be
resumed, then it may have been destroyed instead. -/
def CutShort (schedule history : List Event) : Prop :=
  ∃ done rest, schedule = done ++ rest ∧ (history = done ∨ ∃ ticket answer later,
    rest = .resumed ticket answer :: later ∧ history = done ++ [.destroyed ticket])

theorem CutShort.prepend {schedule history : List Event} (h : CutShort schedule history)
    (first : List Event) : CutShort (first ++ schedule) (first ++ history) := by
  obtain ⟨done, rest, rfl, hhistory⟩ := h
  refine ⟨first ++ done, rest, (List.append_assoc _ _ _).symm, ?_⟩
  rcases hhistory with rfl | ⟨ticket, answer, later, rfl, rfl⟩
  · exact .inl rfl
  · exact .inr ⟨ticket, answer, later, rfl, (List.append_assoc _ _ _).symm⟩

theorem CutShort.append {schedule history : List Event} (h : CutShort schedule history)
    (later : List Event) : CutShort (schedule ++ later) history := by
  obtain ⟨done, rest, rfl, hhistory⟩ := h
  refine ⟨done, rest ++ later, List.append_assoc _ _ _, ?_⟩
  rcases hhistory with rfl | ⟨ticket, answer, after, rfl, rfl⟩
  · exact .inl rfl
  · exact .inr ⟨ticket, answer, after ++ later, rfl, rfl⟩

/-- Everybody has one turn at least. -/
theorem Lineup.length_le_work (crew : Lineup) : crew.length ≤ crew.work := by
  induction crew with
  | nil => exact Nat.zero_le _
  | cons member rest ih =>
      rw [List.length_cons, work_cons]
      omega

/-- The schedule of one workgroup. -/
def Lineup.schedule (crew : Lineup) : List Event :=
  crew.map (fun member => .begun member.1) ++ crew.rounds

/-- The coroutines of one workgroup in the order they are begun, after so many others. -/
def Context.lineup (context : Context ρ σ) (begun : Nat) (workgroup : Coord)
    (waits : Nat → Nat) : Lineup :=
  (List.range context.coroutineCount).map fun index =>
    (⟨begun + index, workgroup, context.coroutinePart index⟩, waits index)

@[simp] theorem Context.length_lineup (context : Context ρ σ) (begun : Nat) (workgroup : Coord)
    (waits : Nat → Nat) :
    (context.lineup begun workgroup waits).length = context.coroutineCount := by
  rw [lineup, List.length_map, List.length_range]

/-- The waits of a workgroup are the right ones wherever the program leaves no choice. -/
def Context.Respects (context : Context ρ σ) (program : Program ρ σ) (backend : Backend ρ σ)
    (fine : Scene σ → Prop) (workgroup : Coord) (waits : Nat → Nat) : Prop :=
  ∀ i < context.coroutineCount, ∀ n,
    program.Waits backend context.constants fine workgroup (context.coroutinePart i) n →
    waits i = n

/-! ## Courses -/

namespace Lineup

/-- The events of the queue as far as so many resumptions can be counted. The coroutine whose turn
is next then is destroyed. -/
def turnsUpTo : Nat → Lineup → List Event
  | _, [] => []
  | 0, (ticket, _) :: _ => [.destroyed ticket]
  | room + 1, (ticket, 0) :: rest => turn (ticket, 0) ++ turnsUpTo room rest
  | room + 1, (ticket, waits + 1) :: rest =>
    turn (ticket, waits + 1) ++ turnsUpTo room (rest ++ [(ticket, waits)])

@[simp] theorem turnsUpTo_nil (room : Nat) : turnsUpTo room [] = [] := by
  cases room <;> rfl

/-- Where there is room for all of them they are the events of the loop. -/
theorem turnsUpTo_eq_inTurns (room : Nat) : ∀ {crew : Lineup}, crew.work ≤ room →
    crew.turnsUpTo room = crew.inTurns := by
  induction room with
  | zero =>
      intro crew h
      cases crew with
      | nil => rw [turnsUpTo_nil, inTurns]
      | cons member rest =>
          rw [work_cons] at h
          omega
  | succ room ih =>
      intro crew h
      cases crew with
      | nil => rw [turnsUpTo_nil, inTurns]
      | cons member rest =>
          obtain ⟨ticket, waits⟩ := member
          cases waits with
          | zero =>
              rw [work_cons] at h
              rw [turnsUpTo, inTurns, ih (by omega)]
          | succ waits =>
              rw [work_rotate] at h
              rw [turnsUpTo, inTurns, ih (by omega)]

/-- And where there is not, the loop is cut short. -/
theorem cutShort_turnsUpTo (room : Nat) : ∀ {crew : Lineup}, room < crew.work →
    CutShort crew.inTurns (crew.turnsUpTo room) := by
  induction room with
  | zero =>
      intro crew h
      cases crew with
      | nil => cases h
      | cons member rest =>
          obtain ⟨answer, later, hturns⟩ := exists_inTurns_cons member rest
          exact ⟨[], _, rfl, .inr ⟨_, _, _, hturns, rfl⟩⟩
  | succ room ih =>
      intro crew h
      cases crew with
      | nil => cases h
      | cons member rest =>
          obtain ⟨ticket, waits⟩ := member
          cases waits with
          | zero =>
              rw [work_cons] at h
              rw [turnsUpTo, inTurns]
              exact (ih (by omega)).prepend _
          | succ waits =>
              rw [work_rotate] at h
              rw [turnsUpTo, inTurns]
              exact (ih (by omega)).prepend _

/-- The number of resumptions after the queue was resumed to its end, counted on. -/
def total (crew : Lineup) (count : Nat) : Except Fault Nat :=
  if count + crew.work < word then .ok (count + crew.work) else .error (.arithmetic .add)

theorem total_of_work {crew rest : Lineup} (count : Nat) (h : crew.work = 1 + rest.work) :
    crew.total count = rest.total (count + 1) := by
  rw [total, total, h, Nat.add_assoc]

/-- The work done after the workgroup of this crew. -/
def advance (crew : Lineup) (stats : Stats) : Except Fault Stats :=
  if stats.coroutines + crew.length < word then
    (crew.total stats.resumptions).map
      (Stats.mk (stats.workgroups + 1) (stats.coroutines + crew.length))
  else
    .error (.arithmetic .add)

/-- What happens in it. -/
def course (crew : Lineup) (stats : Stats) : List Event :=
  crew.map (fun member => .begun member.1)
    ++ if stats.coroutines + crew.length < word then
        crew.turnsUpTo (word - 1 - stats.resumptions)
      else
        []

/-- What the work is after a workgroup, if it can be counted. -/
theorem advance_eq_ok {crew : Lineup} {stats after : Stats} (h : crew.advance stats = .ok after) :
    stats.resumptions + crew.work < word
      ∧ after = ⟨stats.workgroups + 1, stats.coroutines + crew.length,
          stats.resumptions + crew.work⟩ := by
  rw [advance, total] at h
  by_cases hcoroutines : stats.coroutines + crew.length < word
  · rw [if_pos hcoroutines] at h
    by_cases hresumptions : stats.resumptions + crew.work < word
    · rw [if_pos hresumptions] at h
      cases h
      exact ⟨hresumptions, rfl⟩
    · rw [if_neg hresumptions] at h
      cases h
  · rw [if_neg hcoroutines] at h
    cases h

/-- As long as the resumptions can be counted the course is the schedule. -/
theorem course_eq_schedule {crew : Lineup} {stats : Stats}
    (hroom : stats.resumptions + crew.work < word)
    (hcoroutines : stats.coroutines ≤ stats.resumptions) :
    crew.advance stats = .ok ⟨stats.workgroups + 1, stats.coroutines + crew.length,
        stats.resumptions + crew.work⟩
      ∧ crew.course stats = crew.schedule := by
  -- everybody has a turn at least, so that the coroutines can be counted, too
  have hadd : stats.coroutines + crew.length < word :=
    Nat.lt_of_le_of_lt (Nat.add_le_add hcoroutines crew.length_le_work) hroom
  refine ⟨?_, ?_⟩
  · rw [advance, if_pos hadd, total, if_pos hroom]
    rfl
  · rw [course, if_pos hadd, turnsUpTo_eq_inTurns _ (by omega), inTurns_eq_rounds, schedule]

/-- And when they can not it is cut short. -/
theorem course_cutShort {crew : Lineup} {stats : Stats}
    (hroom : word ≤ stats.resumptions + crew.work) (hresumptions : stats.resumptions < word) :
    crew.advance stats = .error (.arithmetic .add)
      ∧ CutShort crew.schedule (crew.course stats) := by
  rw [advance, course, schedule]
  by_cases hadd : stats.coroutines + crew.length < word
  · rw [if_pos hadd, if_pos hadd, total, if_neg (Nat.not_lt.mpr hroom), ← inTurns_eq_rounds]
    exact ⟨rfl, (cutShort_turnsUpTo _ (by omega)).prepend _⟩
  · rw [if_neg hadd, if_neg hadd]
    exact ⟨rfl, CutShort.prepend ⟨[], _, rfl, .inl rfl⟩ _⟩

end Lineup

/-! ## Landing -/

/-- The steps lead to this answer and this history, and if they succeed, to an empty queue in a
fine scene. -/
structure Lands {α : Type} (fine : Scene σ → Prop) (outcome : Except Fault α × Run ρ σ)
    (answer : Except Fault α) (begun : Nat) (history : List Event) : Prop where
  answer_eq : outcome.1 = answer
  history_eq : outcome.2.history = history
  settled : ∀ value, answer = .ok value →
    ∃ scene, fine scene ∧ outcome.2.Shows ⟨[], scene, begun, history⟩

namespace Lands

variable {α β : Type} {outcome : Except Fault α × Run ρ σ} {answer : Except Fault α} {begun : Nat}
  {history : List Event}

/-- Steps that fail have nothing more to lead to. -/
theorem of_error {run : Run ρ σ} {fault : Fault} (h : run.history = history) :
    Lands fine ((.error fault, run) : Except Fault α × Run ρ σ) (.error fault) begun history :=
  ⟨rfl, h, nofun⟩

/-- What happened before belongs to the history, too. -/
theorem after {first later more : List Event} (h : Lands fine outcome answer begun (later ++ more))
    (hlater : later = history ++ first) :
    Lands fine outcome answer begun (history ++ (first ++ more)) := by
  rwa [← List.append_assoc, ← hlater]

/-- The answer may be put in another form. -/
theorem map (h : Lands fine outcome answer begun history) (f : α → β) :
    Lands fine (outcome.1.map f, outcome.2) (answer.map f) begun history := by
  refine ⟨congrArg (Except.map f) h.answer_eq, h.history_eq, fun value hvalue => ?_⟩
  cases answer with
  | error fault => cases hvalue
  | ok found => exact h.settled found rfl

/-- One turn, and then the rest of the queue. -/
theorem turn {outcome : Except Fault Nat × Run ρ σ} {crew rest : Lineup} {count room : Nat}
    {later first : List Event}
    (h : Lands fine outcome (rest.total (count + 1)) begun (later ++ rest.turnsUpTo room))
    (hlater : later = history ++ first)
    (hturns : crew.turnsUpTo (room + 1) = first ++ rest.turnsUpTo room)
    (hwork : crew.work = 1 + rest.work) :
    Lands fine outcome (crew.total count) begun (history ++ crew.turnsUpTo (room + 1)) := by
  rw [hturns, Lineup.total_of_work count hwork]
  exact h.after hlater

end Lands

/-! ## The two loops of a workgroup -/

/-- What the loops need of a view. -/
structure View.Steady (fine : Scene σ → Prop) (own : ρ → Prop) (view : View ρ σ) : Prop where
  scene : fine view.scene
  queue : ∀ coroutine ∈ view.queue, own coroutine.state
  /-- The queue is short enough to take one more coroutine. -/
  short : view.queue.length ≤ Context.maxSubgroups

theorem View.Steady.enqueue {view : View ρ σ} (h : view.Steady fine own)
    {coroutine : Coroutine ρ} (hown : own coroutine.state)
    (hshort : view.queue.length + 1 ≤ Context.maxSubgroups) :
    (view.enqueue coroutine).Steady fine own := by
  refine ⟨h.scene, ?_, ?_⟩
  · intro other hmem
    rcases List.mem_append.mp hmem with hmem | hmem
    · exact h.queue other hmem
    · rw [List.mem_singleton.mp hmem]
      exact hown
  · rw [View.enqueue, List.length_append]
    exact hshort

namespace Run

variable {run : Run ρ σ} {view : View ρ σ}

/-- There is nothing to drain. -/
theorem Shows.drain_lands_nil (h : run.Shows view) (hscene : fine view.scene)
    (hqueue : view.queue = []) {count : Nat} (hcount : count < word) (room : Nat) :
    Lands fine (run.drain backend count) (Lineup.total [] count) view.begun
      (view.history ++ Lineup.turnsUpTo room []) := by
  obtain ⟨after, heq, hafter⟩ := h.drain_nil backend hqueue count
  have htotal : Lineup.total [] count = .ok count := if_pos hcount
  rw [heq, htotal, Lineup.turnsUpTo_nil, List.append_nil]
  refine ⟨rfl, hafter.history, fun _ _ => ⟨view.scene, hscene, ?_⟩⟩
  rw [← hqueue]
  exact hafter

/-- The next resumption can no longer be counted, whatever the numbers of waits to come. -/
theorem Shows.drain_lands_limit (h : run.Shows view) {coroutine : Coroutine ρ}
    {rest : List (Coroutine ρ)} (hqueue : view.queue = coroutine :: rest) {count : Nat}
    (hlimit : word ≤ count + 1) (waits : Nat) (crew : Lineup) :
    let crew : Lineup := (coroutine.ticket, waits) :: crew
    Lands fine (run.drain backend count) (crew.total count) view.begun
      (view.history ++ crew.turnsUpTo 0) := by
  intro crew
  obtain ⟨after, heq, hafter⟩ := h.drain_limit backend hqueue hlimit
  have htotal : crew.total count = .error (.arithmetic .add) := by
    refine if_neg ?_
    rw [Lineup.work_cons]
    omega
  rw [heq, htotal, Lineup.turnsUpTo]
  exact .of_error hafter.history

/-- **A queue of reliable coroutines is resumed in turns**, as long as they can be counted. The
induction is on the resumptions to spare. The lineup is found from its end: a coroutine that waits
stands last in the queue behind, and its number there is one less. -/
theorem Shows.drain_lands (hback : backend.Reliable fine own) (room : Nat) :
    ∀ {run : Run ρ σ} {view : View ρ σ} {count : Nat}, run.Shows view → view.Steady fine own →
      count + room + 1 = word → ∃ crew : Lineup, List.Forall₂ (Fits backend fine) view.queue crew
        ∧ Lands fine (run.drain backend count) (crew.total count) view.begun
          (view.history ++ crew.turnsUpTo room) := by
  induction room with
  | zero =>
      intro run view count h hsteady hcount
      have hcount' : count < word := by omega
      cases hview : view.queue with
      | nil => exact ⟨[], .nil, h.drain_lands_nil hsteady.scene hview hcount' 0⟩
      | cons coroutine rest =>
          -- counting ends here, and any numbers that fit will do
          obtain ⟨crew, hfits⟩ := exists_fits backend hsteady.scene (coroutine :: rest)
          obtain ⟨⟨ticket, waits⟩, later, ⟨hticket, -⟩, -, rfl⟩ :=
            List.forall₂_cons_left_iff.mp hfits
          dsimp only at hticket
          subst hticket
          exact ⟨_, hfits, h.drain_lands_limit hview (by omega) waits later⟩
  | succ room ih =>
      intro run view count h hsteady hcount
      have hroom : count + 1 < word := by omega
      obtain ⟨hscene, hqueue, hshort⟩ := hsteady
      cases hview : view.queue with
      | nil => exact ⟨[], .nil, h.drain_lands_nil hscene hview (Nat.lt_of_succ_lt hroom) (room + 1)⟩
      | cons coroutine rest =>
          rw [hview] at hqueue hshort
          obtain ⟨hown, hrest⟩ := List.forall_mem_cons.mp hqueue
          -- the front coroutine has a turn, and the loop goes on from what it leaves
          obtain ⟨taken, htaken, heq⟩ := h.drain_cons backend hview hroom
          obtain ⟨acted, hacted, hresume⟩ := htaken.resume_eq backend coroutine
          dsimp only at hacted hresume
          have hcounted : count + 1 + room + 1 = word := by omega
          rcases hback.resume coroutine.state view.scene hown hscene with
            ⟨hanswer, hstate, hkept⟩ | ⟨hanswer, hleft⟩
          · rw [hanswer] at hacted hresume
            obtain ⟨after, hqueued, hshows⟩ := hacted.enqueue_eq backend
              { coroutine with state := (backend.resume coroutine.state view.scene).state }
              (Context.room_of_le (Nat.le_of_succ_le hshort))
            obtain ⟨crew', hfits', hlands⟩ := ih hshows
              (.enqueue ⟨hkept, hrest, Nat.le_of_succ_le hshort⟩ hstate hshort) hcounted
            -- the coroutine stands last in the lineup of the queue behind
            obtain ⟨crew, ⟨ticket, waits⟩, rfl, hfits, hticket, hlast⟩ :=
              forall₂_concat_left hfits'
            dsimp only at hticket hlast
            subst hticket
            refine ⟨(coroutine.ticket, waits + 1) :: crew,
              .cons (.of_waiting hscene hanswer hlast) hfits, ?_⟩
            rw [heq, hresume]
            dsimp only
            rw [hqueued]
            exact hlands.turn rfl rfl (Lineup.work_rotate _ _ _)
          · rw [hanswer] at hacted hresume
            have hshows := hacted.destroy backend
              { coroutine with state := (backend.resume coroutine.state view.scene).state }
            obtain ⟨crew, hfits, hlands⟩ := ih hshows
              ⟨hleft, hrest, Nat.le_of_succ_le hshort⟩ hcounted
            refine ⟨(coroutine.ticket, 0) :: crew, .cons (.of_ended hscene hanswer) hfits, ?_⟩
            rw [heq, hresume]
            exact hlands.turn (List.append_assoc _ _ _) rfl rfl

/-- The names of coroutines that are begun one after another. -/
def ticketsFrom (workgroup : Coord) (part : Nat → Subgroups) (begun index count : Nat) :
    List Ticket :=
  (List.range count).map fun i => ⟨begun + i, workgroup, part (index + i)⟩

theorem ticketsFrom_succ (workgroup : Coord) (part : Nat → Subgroups) (begun index count : Nat) :
    ticketsFrom workgroup part begun index (count + 1)
      = ⟨begun, workgroup, part index⟩
        :: ticketsFrom workgroup part (begun + 1) (index + 1) count := by
  rw [ticketsFrom, List.range_succ_eq_map, List.map_cons, List.map_map, ticketsFrom]
  refine congrArg _ (List.map_congr_left fun i _ => ?_)
  rw [Function.comp_apply, Nat.succ_eq_add_one, Nat.add_comm i 1, ← Nat.add_assoc,
    ← Nat.add_assoc]

/-- The coroutine has this name, and its state is one that the program begins. -/
def Begins (program : Program ρ σ) (constants : Constants) (fine : Scene σ → Prop)
    (ticket : Ticket) (coroutine : Coroutine ρ) : Prop :=
  coroutine.ticket = ticket ∧ ∃ scene, fine scene
    ∧ (program.start constants ticket.workgroup ticket.subgroups scene).1 = .ok coroutine.state

/-- A reliable program begins all coroutines of a workgroup, in order. -/
theorem Shows.spawnFrom_eq (hreliable : program.Reliable backend constants due fine own)
    (workgroup : Coord) (part : Nat → Subgroups) (count : Nat) :
    ∀ {run : Run ρ σ} {view : View ρ σ} (index : Nat), run.Shows view → view.Steady fine own →
      (∀ i, index ≤ i → i < index + count → due workgroup (part i)) →
      view.queue.length + count ≤ Context.maxSubgroups → ∃ after last new,
        run.spawnFrom backend program constants workgroup part index count = (.ok (), after)
        ∧ after.Shows last ∧ last.Steady fine own ∧ last.queue = view.queue ++ new
        ∧ last.begun = view.begun + count
        ∧ last.history = view.history
          ++ (ticketsFrom workgroup part view.begun index count).map .begun
        ∧ List.Forall₂ (Begins program constants fine)
            (ticketsFrom workgroup part view.begun index count) new := by
  induction count with
  | zero =>
      intro run view index h hview _ _
      exact ⟨run, view, [], rfl, h, hview, (List.append_nil _).symm, rfl,
        (List.append_nil _).symm, .nil⟩
  | succ count ih =>
      intro run view index h hview hdue hshort
      obtain ⟨state, hstart, hown, hkept⟩ := hreliable.start workgroup (part index) view.scene
        (hdue index (Nat.le_refl _) (by omega)) hview.scene
      obtain ⟨ready, hspawn, hready⟩ := h.spawn_ok backend hstart
      obtain ⟨queued, henqueue, hqueued⟩ := hready.enqueue_eq backend
        ⟨⟨view.begun, workgroup, part index⟩, state⟩ (Context.room_of_le (by
          dsimp only [View.begin, View.note, View.adopt]
          omega))
      -- between being begun and being queued it is not part of the view's queue yet
      have hnext : ((view.adopt (program.start constants workgroup (part index) view.scene).2).begin
          ⟨view.begun, workgroup, part index⟩).Steady fine own :=
        ⟨hkept, hview.queue, hview.short⟩
      obtain ⟨after, last, new, heq, hafter, hlast, hqueue, hbegun, hhistory, hnew⟩ :=
        ih (index + 1) hqueued (hnext.enqueue hown (by
          dsimp only [View.begin, View.note, View.adopt]
          omega)) (fun i hle hlt => hdue i (by omega) (by omega)) (by
          dsimp only [View.enqueue, View.begin, View.note, View.adopt]
          rw [List.length_append, List.length_singleton]
          omega)
      dsimp only [View.enqueue, View.begin, View.note, View.adopt] at hqueue hbegun hhistory hnew
      refine ⟨after, last, ⟨⟨view.begun, workgroup, part index⟩, state⟩ :: new, ?_, hafter, hlast,
        ?_, ?_, ?_, ?_⟩
      · rw [spawnFrom, hspawn, henqueue]
        exact heq
      · exact hqueue.trans (List.append_cons _ _ _).symm
      · omega
      · rw [ticketsFrom_succ, List.map_cons]
        exact hhistory.trans (List.append_cons _ _ _).symm
      · rw [ticketsFrom_succ]
        exact .cons ⟨rfl, view.scene, hview.scene, hstart⟩ hnew

/-! ## One workgroup -/

/-- A lineup of coroutines that the program began: their names, and what is known about the
times they wait. -/
theorem of_begins {tickets : List Ticket} {new : List (Coroutine ρ)} {crew : Lineup}
    (hbegins : List.Forall₂ (Begins program constants fine) tickets new)
    (hfits : List.Forall₂ (Fits backend fine) new crew) :
    crew.map Prod.fst = tickets ∧ ∀ member ∈ crew, ∀ waits,
      program.Waits backend constants fine member.1.workgroup member.1.subgroups waits →
      member.2 = waits := by
  induction hbegins generalizing crew with
  | nil =>
      rw [List.forall₂_nil_left_iff.mp hfits]
      exact ⟨rfl, fun _ hmem => (List.not_mem_nil hmem).elim⟩
  | @cons ticket coroutine tickets new hfirst _ ih =>
      obtain ⟨⟨ticket', waits⟩, rest, ⟨hticket, hwaits⟩, hrest, rfl⟩ :=
        List.forall₂_cons_left_iff.mp hfits
      obtain ⟨hname, scene, hscene, hstart⟩ := hfirst
      dsimp only at hticket hwaits
      subst hname hticket
      obtain ⟨htickets, hall⟩ := ih hrest
      refine ⟨by rw [List.map_cons, htickets], fun member hmem total htotal => ?_⟩
      rcases List.mem_cons.mp hmem with rfl | hmem
      · exact hwaits total (htotal scene _ hscene hstart)
      · exact hall member hmem total htotal

/-- The second halves of a list of pairs whose first halves are known. -/
theorem exists_eq_map_range {α : Type} {f : Nat → α} {count : Nat} {list : List (α × Nat)}
    (h : list.map Prod.fst = (List.range count).map f) :
    ∃ waits : Nat → Nat, list = (List.range count).map fun i => (f i, waits i) := by
  have hlength : list.length = count := by
    simpa using congrArg List.length h
  refine ⟨fun i => (list[i]?.map Prod.snd).getD 0, List.ext_getElem ?_ fun i hi hi' => ?_⟩
  · rw [hlength, List.length_map, List.length_range]
  · have hfst : list[i].1 = f i := by
      have hat := congrArg (·[i]?) h
      rw [List.getElem?_map, List.getElem?_map, List.getElem?_eq_getElem hi,
        List.getElem?_range (hlength ▸ hi)] at hat
      exact Option.some.inj hat
    rw [List.getElem_map, List.getElem_range]
    refine Prod.ext hfst ?_
    dsimp only
    rw [List.getElem?_eq_getElem hi, Option.map_some, Option.getD_some]

/-- The coroutines of a workgroup are known by their places. -/
theorem exists_lineup {context : Context ρ σ} {begun : Nat} {workgroup : Coord}
    {new : List (Coroutine ρ)} {crew : Lineup}
    (hbegins : List.Forall₂ (Begins program context.constants fine)
      (ticketsFrom workgroup context.coroutinePart begun 0 context.coroutineCount) new)
    (hfits : List.Forall₂ (Fits backend fine) new crew) :
    ∃ waits, crew = context.lineup begun workgroup waits
      ∧ context.Respects program backend fine workgroup waits := by
  obtain ⟨hnames, hwaits⟩ := of_begins hbegins hfits
  obtain ⟨waits, rfl⟩ := exists_eq_map_range hnames
  have heq : (List.range context.coroutineCount).map (fun i =>
      ((⟨begun + i, workgroup, context.coroutinePart (0 + i)⟩ : Ticket), waits i))
        = context.lineup begun workgroup waits := by
    refine List.map_congr_left fun i _ => ?_
    rw [Nat.zero_add]
  refine ⟨waits, heq, fun i hi n hn => ?_⟩
  rw [heq] at hwaits
  exact hwaits _ (List.mem_map_of_mem (List.mem_range.mpr hi)) n hn

/-- How often they wait does not matter for how they are begun. -/
theorem map_begun_lineup (context : Context ρ σ) (begun : Nat) (workgroup : Coord)
    (waits : Nat → Nat) :
    (context.lineup begun workgroup waits).map (fun member => Event.begun member.1)
      = (ticketsFrom workgroup context.coroutinePart begun 0 context.coroutineCount).map
          .begun := by
  rw [Context.lineup, ticketsFrom, List.map_map, List.map_map]
  refine List.map_congr_left fun i _ => ?_
  rw [Function.comp_apply, Function.comp_apply, Nat.zero_add]

/-- **One workgroup takes its course**, with waits that come out of it. -/
theorem Shows.runWorkgroup_lands {scene : Scene σ} {begun : Nat} {history : List Event}
    (h : run.Shows ⟨[], scene, begun, history⟩) (hscene : fine scene) {context : Context ρ σ}
    (hreliable : program.Reliable backend context.constants due fine own)
    (hshort : context.coroutineCount ≤ Context.maxSubgroups) (workgroup : Coord)
    (hdue : ∀ i < context.coroutineCount, due workgroup (context.coroutinePart i)) (stats : Stats)
    (hworkgroups : stats.workgroups + 1 < word) (hresumptions : stats.resumptions < word) :
    ∃ waits : Nat → Nat, context.Respects program backend fine workgroup waits
      ∧ Lands fine (context.runWorkgroup backend program stats run workgroup)
          ((context.lineup begun workgroup waits).advance stats)
          (begun + context.coroutineCount)
          (history ++ (context.lineup begun workgroup waits).course stats) := by
  have hview : View.Steady fine own ⟨[], scene, begun, history⟩ :=
    ⟨hscene, fun _ hmem => (List.not_mem_nil hmem).elim, Nat.zero_le _⟩
  obtain ⟨spawned, last, new, hspawn, hspawned, hlast, hnew, hbegun, hhistory, hbegins⟩ :=
    Shows.spawnFrom_eq hreliable workgroup context.coroutinePart context.coroutineCount 0 h hview
      (fun i _ hlt => hdue i (by omega)) (by rw [List.length_nil, Nat.zero_add]; exact hshort)
  rw [List.nil_append] at hnew
  dsimp only at hbegun hhistory hbegins
  -- the waits are those of draining the queue, whether it comes to that or not
  have hspare : stats.resumptions + (word - 1 - stats.resumptions) + 1 = word := by omega
  obtain ⟨crew, hfits, hdrain⟩ := Shows.drain_lands hreliable.toReliable
    (word - 1 - stats.resumptions) hspawned hlast hspare
  rw [hnew] at hfits
  obtain ⟨waits, rfl, hwaits⟩ := exists_lineup hbegins hfits
  rw [← map_begun_lineup context begun workgroup waits] at hhistory
  refine ⟨waits, hwaits, ?_⟩
  rw [Lineup.advance, Lineup.course, Context.length_lineup, Context.runWorkgroup,
    Checked.add_eq_ok hworkgroups]
  dsimp only
  rw [hspawn]
  dsimp only
  by_cases hadd : stats.coroutines + context.coroutineCount < word
  · have hmapped := hdrain.map
      (Stats.mk (stats.workgroups + 1) (stats.coroutines + context.coroutineCount))
    rw [hbegun, hhistory, List.append_assoc] at hmapped
    rw [if_pos hadd, if_pos hadd, Checked.add_eq_ok hadd]
    dsimp only
    rcases hdrained : spawned.drain backend stats.resumptions with ⟨fault | total, drained⟩
    · rw [hdrained] at hmapped
      exact hmapped
    · rw [hdrained] at hmapped
      exact hmapped
  -- the coroutines can no longer be counted
  · rw [if_neg hadd, if_neg hadd, Checked.add_eq_error (Nat.not_lt.mp hadd), List.append_nil]
    exact .of_error (hspawned.history.trans hhistory)

end Run

end GridDispatch
