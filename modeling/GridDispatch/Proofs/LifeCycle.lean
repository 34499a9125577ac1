/-
The life of a coroutine, as told by a history.

A coroutine is begun once, waits any number of times, and is destroyed once. What comes
right before its end is its business: it may have answered that it has ended, or faulted,
or never have been resumed again. This file says so for lists of events and knows nothing
of queues and runs.

`Chronicle` is the invariant: for every coroutine it describes the list of all its events,
those that are alive being told from those that are gone, and it says that an answer other
than to wait is followed by the end at once. It holds of the empty history, and for each
thing that can happen to a coroutine there is one lemma which says what must be alive for
it to happen and what is alive afterwards. The steps of a run need these lemmas only.
-/
import GridDispatch.Schedule.Event
import Mathlib.Data.List.Infix

set_option autoImplicit false

namespace GridDispatch

/-! ## One coroutine -/

/-- Whether an event is about this coroutine. -/
def Event.concerns (ticket : Ticket) : Event → Bool
  | .begun other | .resumed other _ | .destroyed other => other = ticket
  | _ => false

theorem Event.concerns_begun (ticket : Ticket) : (begun ticket).concerns ticket = true :=
  decide_eq_true rfl

theorem Event.concerns_resumed (ticket : Ticket) (answer : Except Fault Progress) :
    (resumed ticket answer).concerns ticket = true :=
  decide_eq_true rfl

theorem Event.concerns_destroyed (ticket : Ticket) : (destroyed ticket).concerns ticket = true :=
  decide_eq_true rfl

namespace Ticket

/-- What happened to a coroutine, in order. -/
def life (ticket : Ticket) (events : List Event) : List Event :=
  events.filter (Event.concerns ticket)

/-- The coroutine was begun, and every time it was resumed it went on waiting. -/
def Alive (ticket : Ticket) (events : List Event) : Prop :=
  ∃ waits, ticket.life events
    = .begun ticket :: List.replicate waits (.resumed ticket (.ok .waiting))

/-- The coroutine was begun, waited, perhaps gave another answer, and was destroyed. -/
def Ended (ticket : Ticket) (events : List Event) : Prop :=
  ∃ waits last, (last = [] ∨ ∃ answer, answer ≠ .ok .waiting ∧ last = [.resumed ticket answer])
    ∧ ticket.life events
      = .begun ticket :: List.replicate waits (.resumed ticket (.ok .waiting)) ++ last
        ++ [.destroyed ticket]

theorem life_append (ticket : Ticket) (events more : List Event) :
    ticket.life (events ++ more) = ticket.life events ++ ticket.life more :=
  List.filter_append _ _

/-- Events about others are no part of a life. -/
theorem life_append_other {ticket : Ticket} {more : List Event} (events : List Event)
    (h : ∀ event ∈ more, event.concerns ticket = false) :
    ticket.life (events ++ more) = ticket.life events := by
  have hnone : ticket.life more = [] :=
    List.filter_eq_nil_iff.mpr fun event hmem => Bool.eq_false_iff.mp (h event hmem)
  rw [life_append, hnone, List.append_nil]

/-- An event about the coroutine is. -/
theorem life_concat {ticket : Ticket} {event : Event} (events : List Event)
    (h : event.concerns ticket = true) :
    ticket.life (events ++ [event]) = ticket.life events ++ [event] := by
  rw [life_append, life, life, List.filter_singleton, h]
  rfl

theorem mem_life {ticket : Ticket} {event : Event} (events : List Event)
    (h : event.concerns ticket = true) : event ∈ ticket.life events ↔ event ∈ events := by
  rw [life, List.mem_filter, and_iff_left h]

theorem begun_mem_life {ticket : Ticket} {events : List Event} :
    .begun ticket ∈ ticket.life events ↔ .begun ticket ∈ events :=
  mem_life events (Event.concerns_begun ticket)

theorem destroyed_mem_life {ticket : Ticket} {events : List Event} :
    .destroyed ticket ∈ ticket.life events ↔ .destroyed ticket ∈ events :=
  mem_life events (Event.concerns_destroyed ticket)

variable {ticket : Ticket} {event : Event} {events : List Event}

/-- A live coroutine has been begun and not destroyed. -/
theorem Alive.mem (h : ticket.Alive events) :
    .begun ticket ∈ events ∧ .destroyed ticket ∉ events := by
  obtain ⟨waits, hlife⟩ := h
  rw [← begun_mem_life, ← destroyed_mem_life, hlife]
  refine ⟨List.mem_cons_self, fun hmem => ?_⟩
  rcases List.mem_cons.mp hmem with heq | hrest
  · cases heq
  · cases (List.mem_replicate.mp hrest).2

theorem Ended.mem (h : ticket.Ended events) :
    .begun ticket ∈ events ∧ .destroyed ticket ∈ events := by
  obtain ⟨waits, last, -, hlife⟩ := h
  rw [← begun_mem_life, ← destroyed_mem_life, hlife]
  exact ⟨List.mem_cons_self, List.mem_append_right _ (List.mem_singleton_self _)⟩

theorem Alive.append_other (h : ticket.Alive events) {more : List Event}
    (hother : ∀ event ∈ more, event.concerns ticket = false) : ticket.Alive (events ++ more) := by
  rw [Alive, life_append_other events hother]
  exact h

theorem Ended.append_other (h : ticket.Ended events) {more : List Event}
    (hother : ∀ event ∈ more, event.concerns ticket = false) : ticket.Ended (events ++ more) := by
  rw [Ended, life_append_other events hother]
  exact h

/-! Events about itself bring a coroutine to life, take it on, or end it. -/

theorem Alive.begin (h : ticket.life events = []) : ticket.Alive (events ++ [.begun ticket]) := by
  refine ⟨0, ?_⟩
  rw [life_concat events (Event.concerns_begun ticket), h]
  rfl

theorem Alive.wait (h : ticket.Alive events) :
    ticket.Alive (events ++ [.resumed ticket (.ok .waiting)]) := by
  obtain ⟨waits, hlife⟩ := h
  refine ⟨waits + 1, ?_⟩
  rw [life_concat events (Event.concerns_resumed ticket _), hlife, List.cons_append,
    List.replicate_succ']

theorem Alive.destroy (h : ticket.Alive events) :
    ticket.Ended (events ++ [.destroyed ticket]) := by
  obtain ⟨waits, hlife⟩ := h
  refine ⟨waits, [], .inl rfl, ?_⟩
  rw [life_concat events (Event.concerns_destroyed ticket), hlife, List.append_nil]

theorem Alive.finish (h : ticket.Alive events) {answer : Except Fault Progress}
    (hanswer : answer ≠ .ok .waiting) :
    ticket.Ended (events ++ [.resumed ticket answer, .destroyed ticket]) := by
  obtain ⟨waits, hlife⟩ := h
  refine ⟨waits, [.resumed ticket answer], .inr ⟨answer, hanswer, rfl⟩, ?_⟩
  rw [List.append_cons, life_concat _ (Event.concerns_destroyed ticket),
    life_concat events (Event.concerns_resumed ticket _), hlife]

end Ticket

/-! ## Histories -/

/-- Whoever answers anything but to wait is destroyed at once. -/
def Prompt (events : List Event) : Prop :=
  ∀ (i : Nat) (ticket : Ticket) (answer : Except Fault Progress),
    events[i]? = some (.resumed ticket answer) → answer ≠ .ok .waiting →
    events[i + 1]? = some (.destroyed ticket)

theorem Prompt.append {events more : List Event} (h : Prompt events)
    (hmore : Prompt more) : Prompt (events ++ more) := by
  intro i ticket answer hi hanswer
  by_cases hlt : i < events.length
  · rw [List.getElem?_append_left hlt] at hi
    -- the end is in the same piece as the answer, which is therefore not the last of it
    have hnext := h i ticket answer hi hanswer
    obtain ⟨hlast, -⟩ := List.getElem?_eq_some_iff.mp hnext
    rw [List.getElem?_append_left hlast, hnext]
  · rw [List.getElem?_append_right (Nat.not_lt.mp hlt)] at hi
    rw [List.getElem?_append_right (by omega), Nat.sub_add_comm (Nat.not_lt.mp hlt)]
    exact hmore _ ticket answer hi hanswer

/-- A single event asks for nothing, unless it is such an answer. -/
theorem Prompt.singleton {event : Event}
    (h : ∀ ticket answer, event = .resumed ticket answer → answer = .ok .waiting) :
    Prompt [event] := by
  intro i ticket answer hi hanswer
  cases i with
  | zero => exact absurd (h ticket answer (Option.some.inj hi)) hanswer
  | succ i => cases hi

theorem Prompt.finish (ticket : Ticket) (answer : Except Fault Progress) :
    Prompt [.resumed ticket answer, .destroyed ticket] := by
  intro i other answer' hi _
  match i with
  | 0 =>
      cases hi
      rfl
  | 1 => cases hi
  | i + 2 => cases hi

/-- A history in which every coroutine is begun once and destroyed once: the events, the
coroutines that are alive after them, and the number of those begun. -/
structure Chronicle (events : List Event) (living : List Ticket) (begun : Nat) : Prop where
  nodup : living.Nodup
  alive : ∀ ticket ∈ living, ticket.Alive events
  gone : ∀ ticket, ticket ∉ living → ticket.life events = [] ∨ ticket.Ended events
  /-- Serial numbers are not used twice. -/
  serial : ∀ ticket : Ticket, ticket.life events ≠ [] → ticket.serial < begun
  prompt : Prompt events

namespace Chronicle

variable {events : List Event} {living : List Ticket} {begun : Nat} {ticket : Ticket}

theorem begin (h : Chronicle events living begun) (workgroup : Coord) (subgroups : Subgroups) :
    Chronicle (events ++ [.begun ⟨begun, workgroup, subgroups⟩])
      (⟨begun, workgroup, subgroups⟩ :: living) (begun + 1) := by
  -- its serial number has not been used, so nothing has happened to it
  have hfresh : (⟨begun, workgroup, subgroups⟩ : Ticket).life events = [] := by
    by_contra hlife
    exact Nat.lt_irrefl _ (h.serial _ hlife)
  have hother : ∀ {other : Ticket}, other ≠ ⟨begun, workgroup, subgroups⟩ →
      ∀ event ∈ [Event.begun ⟨begun, workgroup, subgroups⟩], event.concerns other = false := by
    intro other hne event hmem
    rw [List.mem_singleton.mp hmem]
    exact decide_eq_false hne.symm
  refine ⟨List.nodup_cons.mpr ⟨?_, h.nodup⟩, ?_, ?_, ?_,
    h.prompt.append (.singleton fun _ _ heq => by cases heq)⟩
  · intro hmem
    have hbegun := (h.alive _ hmem).mem.1
    rw [← Ticket.begun_mem_life, hfresh] at hbegun
    cases hbegun
  · intro other hmem
    by_cases hne : other = ⟨begun, workgroup, subgroups⟩
    · rw [hne]
      exact .begin hfresh
    · exact (h.alive other ((List.mem_cons.mp hmem).resolve_left hne)).append_other (hother hne)
  · intro other hmem
    obtain ⟨hne, hmem⟩ := not_or.mp (List.mem_cons.not.mp hmem)
    rw [Ticket.life_append_other events (hother hne)]
    exact (h.gone other hmem).imp_right fun hended => hended.append_other (hother hne)
  · intro other hlife
    by_cases hne : other = ⟨begun, workgroup, subgroups⟩
    · rw [hne]
      exact Nat.lt_succ_self begun
    · rw [Ticket.life_append_other events (hother hne)] at hlife
      exact Nat.lt_succ_of_lt (h.serial other hlife)

theorem serial_lt (h : Chronicle events living begun) (hmem : ticket ∈ living) :
    ticket.serial < begun :=
  h.serial ticket (List.ne_nil_of_mem (Ticket.begun_mem_life.mpr (h.alive ticket hmem).mem.1))

/-- What becomes of the others when all events are about one live coroutine. -/
theorem append_own (h : Chronicle events (ticket :: living) begun) (more : List Event)
    (hown : ∀ event ∈ more, ∀ other, event.concerns other = true → other = ticket) :
    (∀ other ∈ living, other.Alive (events ++ more))
      ∧ (∀ other, other ∉ ticket :: living →
        other.life (events ++ more) = [] ∨ other.Ended (events ++ more))
      ∧ ∀ other : Ticket, other.life (events ++ more) ≠ [] → other.serial < begun := by
  have hother : ∀ {other : Ticket}, other ≠ ticket →
      ∀ event ∈ more, event.concerns other = false :=
    fun hne event hmem => Bool.eq_false_iff.mpr fun htrue => hne (hown event hmem _ htrue)
  obtain ⟨hout, -⟩ := List.nodup_cons.mp h.nodup
  refine ⟨?_, ?_, ?_⟩
  · intro other hmem
    have hne : other ≠ ticket := by
      rintro rfl
      exact hout hmem
    exact (h.alive other (List.mem_cons_of_mem _ hmem)).append_other (hother hne)
  · intro other hmem
    have hne : other ≠ ticket := fun heq => hmem (heq ▸ List.mem_cons_self)
    rw [Ticket.life_append_other events (hother hne)]
    exact (h.gone other hmem).imp_right fun hended => hended.append_other (hother hne)
  · intro other hlife
    by_cases hne : other = ticket
    · rw [hne]
      exact h.serial_lt List.mem_cons_self
    · rw [Ticket.life_append_other events (hother hne)] at hlife
      exact h.serial other hlife

theorem wait (h : Chronicle events (ticket :: living) begun) :
    Chronicle (events ++ [.resumed ticket (.ok .waiting)]) (ticket :: living) begun := by
  obtain ⟨halive, hgone, hserial⟩ := h.append_own [.resumed ticket (.ok .waiting)] (by
    intro event hmem other heq
    rw [List.mem_singleton.mp hmem] at heq
    exact (of_decide_eq_true heq).symm)
  refine ⟨h.nodup, ?_, hgone, hserial, h.prompt.append (.singleton ?_)⟩
  · intro other hmem
    rcases List.mem_cons.mp hmem with rfl | hrest
    · exact (h.alive other hmem).wait
    · exact halive other hrest
  · intro other answer heq
    cases heq
    rfl

/-- Events that end a live coroutine. -/
theorem remove (h : Chronicle events (ticket :: living) begun) {more : List Event}
    (hown : ∀ event ∈ more, ∀ other, event.concerns other = true → other = ticket)
    (hended : ticket.Ended (events ++ more)) (hprompt : Prompt more) :
    Chronicle (events ++ more) living begun := by
  obtain ⟨halive, hgone, hserial⟩ := h.append_own more hown
  refine ⟨(List.nodup_cons.mp h.nodup).2, halive, ?_, hserial, h.prompt.append hprompt⟩
  intro other hmem
  by_cases hne : other = ticket
  · rw [hne]
    exact .inr hended
  · exact hgone other (fun hcons => hmem ((List.mem_cons.mp hcons).resolve_left hne))

theorem destroy (h : Chronicle events (ticket :: living) begun) :
    Chronicle (events ++ [.destroyed ticket]) living begun := by
  refine h.remove ?_ (h.alive ticket List.mem_cons_self).destroy
    (.singleton fun _ _ heq => by cases heq)
  intro event hmem other heq
  rw [List.mem_singleton.mp hmem] at heq
  exact (of_decide_eq_true heq).symm

theorem finish (h : Chronicle events (ticket :: living) begun) {answer : Except Fault Progress}
    (hanswer : answer ≠ .ok .waiting) :
    Chronicle (events ++ [.resumed ticket answer, .destroyed ticket]) living begun := by
  refine h.remove ?_ ((h.alive ticket List.mem_cons_self).finish hanswer)
    (.finish ticket answer)
  intro event hmem other heq
  rcases List.mem_cons.mp hmem with rfl | hmem
  · exact (of_decide_eq_true heq).symm
  · rw [List.mem_singleton.mp hmem] at heq
    exact (of_decide_eq_true heq).symm

theorem perm (h : Chronicle events living begun) {other : List Ticket} (hperm : living.Perm other) :
    Chronicle events other begun where
  nodup := hperm.nodup_iff.mp h.nodup
  alive ticket hmem := h.alive ticket (hperm.mem_iff.mpr hmem)
  gone ticket hmem := h.gone ticket (fun hout => hmem (hperm.mem_iff.mp hout))
  serial := h.serial
  prompt := h.prompt

/-- Nothing has happened yet. -/
theorem nil : Chronicle [] [] 0 :=
  ⟨List.nodup_nil, fun _ hmem => (List.not_mem_nil hmem).elim, fun _ _ => .inl rfl,
    fun _ hlife => absurd rfl hlife, fun _ _ _ hi => by cases hi⟩

/-- Several coroutines are destroyed, one after another. -/
theorem destroyAll {list : List Ticket} (h : Chronicle events (list ++ living) begun) :
    Chronicle (events ++ list.map .destroyed) living begun := by
  induction list generalizing events with
  | nil =>
      rw [List.map_nil, List.append_nil]
      exact h
  | cons first rest ih =>
      have hrest := ih h.destroy
      rwa [List.append_assoc] at hrest

/-- A coroutine that was begun and is not alive has ended. -/
theorem ended (h : Chronicle events living begun) (hout : ticket ∉ living)
    (hbegun : .begun ticket ∈ events) : ticket.Ended events := by
  -- the other possibility is that nothing has happened to it at all
  refine (h.gone ticket hout).resolve_left fun hnone => ?_
  rw [← Ticket.begun_mem_life, hnone] at hbegun
  cases hbegun

/-- A coroutine that was begun has a beginning and goes on, whether it ended or not. -/
theorem exists_life_eq_cons (h : Chronicle events living begun) (hbegun : .begun ticket ∈ events) :
    ∃ more, ticket.life events = .begun ticket :: more ∧ .begun ticket ∉ more := by
  have hwaits : ∀ waits, Event.begun ticket ∉
      List.replicate waits (Event.resumed ticket (.ok .waiting)) := by
    intro waits hmem
    cases (List.mem_replicate.mp hmem).2
  by_cases hmem : ticket ∈ living
  · obtain ⟨waits, hlife⟩ := h.alive ticket hmem
    exact ⟨_, hlife, hwaits waits⟩
  · obtain ⟨waits, last, hlast, hlife⟩ := h.ended hmem hbegun
    rw [List.cons_append, List.cons_append] at hlife
    refine ⟨_, hlife, ?_⟩
    rw [List.mem_append, List.mem_append, not_or, not_or]
    refine ⟨⟨hwaits waits, ?_⟩, nofun⟩
    rcases hlast with rfl | ⟨answer, -, rfl⟩
    · exact List.not_mem_nil
    · nofun

/-- Nothing happens to a coroutine before it is begun. -/
theorem life_before_eq_nil (h : Chronicle events living begun) {before after : List Event}
    (heq : events = before ++ .begun ticket :: after) : ticket.life before = [] := by
  have hbegun : .begun ticket ∈ events := heq ▸ List.mem_append_right _ List.mem_cons_self
  obtain ⟨more, hlife, hout⟩ := h.exists_life_eq_cons hbegun
  have hsplit : ticket.life events
      = ticket.life before ++ .begun ticket :: ticket.life after := by
    rw [heq, Ticket.life_append, Ticket.life, Ticket.life,
      List.filter_cons_of_pos (Event.concerns_begun ticket)]
    rfl
  cases hbefore : ticket.life before with
  | nil => rfl
  | cons first rest =>
      -- then it was begun a second time behind the first event of its life
      rw [hlife, hbefore, List.cons_append] at hsplit
      obtain ⟨-, rfl⟩ := List.cons.inj hsplit
      exact absurd (List.mem_append_right _ List.mem_cons_self) hout

/-- Nothing happened to a coroutine that was not begun. -/
theorem life_eq_nil (h : Chronicle events living begun) (hnever : .begun ticket ∉ events) :
    ticket.life events = [] := by
  by_cases hmem : ticket ∈ living
  · exact absurd (h.alive ticket hmem).mem.1 hnever
  · exact (h.gone ticket hmem).resolve_right fun hended => hnever hended.mem.1

/-- A coroutine is alive exactly if it was begun and not destroyed. -/
theorem mem_living_iff (h : Chronicle events living begun) (ticket : Ticket) :
    ticket ∈ living ↔ .begun ticket ∈ events ∧ .destroyed ticket ∉ events := by
  refine ⟨fun hmem => (h.alive ticket hmem).mem, fun ⟨hbegun, hkept⟩ => ?_⟩
  by_contra hout
  exact hkept (h.ended hout hbegun).mem.2

end Chronicle

end GridDispatch
