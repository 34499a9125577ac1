/-
Turns and rounds: the order in which a queue resumes its coroutines.

A dispatch takes the front coroutine of its queue, resumes it, and puts it back at the
end if it waits. Nothing in that loop speaks of rounds. This file is the argument that
it runs in rounds nevertheless, told on lists of coroutines and the numbers of times
they are going to wait, without rings, scenes or faults.

`inTurns` is the loop, event by event. `rounds` is the schedule as a reader thinks of
it: in round `r` everyone has a turn who waits at least `r` times, in the order they
were begun, and whoever ends in this round is destroyed at once. `inTurns_eq_rounds`
says that they agree. The step that carries it is `inTurns_append`: the front part of a
queue has its turns first, and those of it who go on stand behind the rest then, so the
middle of a round is a queue whose front part is still to come and whose back part has
been there.

The other fact about the loop is fairness (`resumptions_le`). It is not read off the
rounds but proved along the loop, with the invariant that going through the queue from
the front the numbers of past turns never fall, and rise by one at most.
-/
import GridDispatch.Schedule.Event
import Mathlib.Algebra.GroupWithZero.Nat
import Mathlib.Data.List.Infix

set_option autoImplicit false

namespace GridDispatch

/-! ## The loop and the rounds -/

/-- Coroutines in the order of a queue, each with the number of times it will wait. -/
abbrev Lineup := List (Ticket × Nat)

namespace Lineup

/-- The events of one turn: a coroutine that has no more to wait ends and is destroyed. -/
def turn (member : Ticket × Nat) : List Event :=
  match member.2 with
  | 0 => [.resumed member.1 (.ok .ended), .destroyed member.1]
  | _ + 1 => [.resumed member.1 (.ok .waiting)]

/-- The coroutine after its turn, if it goes on. -/
def next? (member : Ticket × Nat) : Option (Ticket × Nat) :=
  match member.2 with
  | 0 => none
  | waits + 1 => some (member.1, waits)

/-- The number of turns that all of them take. -/
def work : Lineup → Nat
  | [] => 0
  | member :: rest => member.2 + 1 + work rest

@[simp] theorem work_nil : work [] = 0 := rfl

@[simp] theorem work_cons (member : Ticket × Nat) (rest : Lineup) :
    work (member :: rest) = member.2 + 1 + work rest := rfl

@[simp] theorem work_append (front back : Lineup) :
    work (front ++ back) = work front + work back := by
  induction front with
  | nil => rw [List.nil_append, work_nil, Nat.zero_add]
  | cons member front ih => rw [List.cons_append, work_cons, work_cons, ih, ← Nat.add_assoc]

/-- Whoever waits has one turn less to come when it stands behind the rest. -/
theorem work_rotate (ticket : Ticket) (waits : Nat) (rest : Lineup) :
    work ((ticket, waits + 1) :: rest) = 1 + work (rest ++ [(ticket, waits)]) := by
  simp only [work_cons, work_append, work_nil]
  omega

theorem work_eq_sum (crew : Lineup) : work crew = (crew.map fun member => member.2 + 1).sum := by
  induction crew with
  | nil => rfl
  | cons member rest ih => rw [work_cons, ih, List.map_cons, List.sum_cons]

/-- The events of the queue: the front coroutine has its turn and goes to the back. -/
def inTurns : Lineup → List Event
  | [] => []
  | (ticket, 0) :: rest => turn (ticket, 0) ++ inTurns rest
  | (ticket, waits + 1) :: rest => turn (ticket, waits + 1) ++ inTurns (rest ++ [(ticket, waits)])
termination_by crew => work crew
decreasing_by
  · rw [work_cons]
    omega
  · rw [work_cons, work_append, work_cons, work_nil]
    omega

/-- The front coroutine is resumed first. -/
theorem exists_inTurns_cons (member : Ticket × Nat) (rest : Lineup) :
    ∃ answer later, inTurns (member :: rest) = .resumed member.1 answer :: later := by
  obtain ⟨ticket, waits⟩ := member
  cases waits with
  | zero => exact ⟨_, _, by rw [inTurns, turn, List.cons_append]⟩
  | succ waits => exact ⟨_, _, by rw [inTurns, turn, List.cons_append]⟩

/-- The events of a coroutine in one round. -/
def turnIn (round : Nat) (member : Ticket × Nat) : List Event :=
  if round < member.2 then [.resumed member.1 (.ok .waiting)]
  else if round = member.2 then [.resumed member.1 (.ok .ended), .destroyed member.1]
  else []

/-- The largest number of times that one of them waits. -/
def longest (crew : Lineup) : Nat :=
  (crew.map Prod.snd).foldr max 0

/-- The schedule: one round after another, until nobody is left. -/
def rounds (crew : Lineup) : List Event :=
  (List.range (longest crew + 1)).flatMap fun round => crew.flatMap (turnIn round)

/-! ## The loop runs in rounds -/

/-- The front part of a queue has its turns, and those who go on stand behind the rest. -/
theorem inTurns_append (front back : Lineup) :
    inTurns (front ++ back) = front.flatMap turn ++ inTurns (back ++ front.filterMap next?) := by
  induction front generalizing back with
  | nil => rw [List.nil_append, List.flatMap_nil, List.filterMap_nil, List.append_nil,
      List.nil_append]
  | cons member front ih =>
      obtain ⟨ticket, waits⟩ := member
      cases waits with
      | zero =>
          rw [List.cons_append, inTurns, ih, List.flatMap_cons, List.filterMap_cons_none rfl,
            List.append_assoc]
      | succ waits =>
          rw [List.cons_append, inTurns, List.append_assoc, ih, List.flatMap_cons,
            List.filterMap_cons_some (f := next?) (b := (ticket, waits)) rfl, List.append_assoc,
            List.append_assoc, List.singleton_append]

/-- One whole round of the loop. -/
theorem inTurns_eq_turns (crew : Lineup) :
    inTurns crew = crew.flatMap turn ++ inTurns (crew.filterMap next?) := by
  have h := inTurns_append crew []
  rwa [List.append_nil, List.nil_append] at h

/-- In round zero everyone has a turn. -/
theorem turnIn_zero (member : Ticket × Nat) : turnIn 0 member = turn member := by
  obtain ⟨ticket, waits⟩ := member
  cases waits <;> rfl

/-- A later round is an earlier one of those who go on. -/
theorem flatMap_turnIn_succ (round : Nat) (crew : Lineup) :
    crew.flatMap (turnIn (round + 1)) = (crew.filterMap next?).flatMap (turnIn round) := by
  induction crew with
  | nil => rfl
  | cons member rest ih =>
      obtain ⟨ticket, waits⟩ := member
      cases waits with
      | zero =>
          rw [List.flatMap_cons, ih, List.filterMap_cons_none rfl]
          rfl
      | succ waits =>
          have hturn : turnIn (round + 1) (ticket, waits + 1) = turnIn round (ticket, waits) := by
            simp only [turnIn, Nat.add_lt_add_iff_right, Nat.add_right_cancel_iff]
          rw [List.flatMap_cons, ih,
            List.filterMap_cons_some (f := next?) (b := (ticket, waits)) rfl, List.flatMap_cons,
            hturn]

/-- The loop takes as many rounds as bound the waiting. -/
theorem inTurns_eq_of_bound (bound : Nat) : ∀ crew : Lineup,
    (∀ member ∈ crew, member.2 < bound) →
    inTurns crew = (List.range bound).flatMap fun round => crew.flatMap (turnIn round) := by
  induction bound with
  | zero =>
      intro crew hbound
      have hnone : crew = [] := List.eq_nil_iff_forall_not_mem.mpr
        fun member hmem => Nat.not_lt_zero _ (hbound member hmem)
      rw [hnone, inTurns]
      rfl
  | succ bound ih =>
      intro crew hbound
      have hnext : ∀ member ∈ crew.filterMap next?, member.2 < bound := by
        intro member hmem
        obtain ⟨⟨ticket, waits⟩, hold, hgo⟩ := List.mem_filterMap.mp hmem
        have hlt := hbound _ hold
        cases waits with
        | zero => simp [next?] at hgo
        | succ waits =>
            simp only [next?, Option.some.injEq] at hgo
            subst hgo
            exact Nat.lt_of_succ_lt_succ hlt
      -- the first round is a turn of everyone, and the later ones are those of who goes on
      have hzero : crew.flatMap turn = crew.flatMap (turnIn 0) :=
        congrArg (crew.flatMap ·) (funext fun member => (turnIn_zero member).symm)
      rw [inTurns_eq_turns, ih _ hnext, List.range_succ_eq_map, List.flatMap_cons,
        List.flatMap_map, hzero]
      exact congrArg (crew.flatMap (turnIn 0) ++ ·)
        (congrArg (List.range bound |>.flatMap ·) (funext fun round =>
          (flatMap_turnIn_succ round crew).symm))

theorem le_longest {crew : Lineup} {member : Ticket × Nat} (h : member ∈ crew) :
    member.2 ≤ longest crew := by
  induction crew with
  | nil => simp at h
  | cons first rest ih =>
      rw [longest, List.map_cons, List.foldr_cons, ← longest]
      rcases List.mem_cons.mp h with rfl | hrest
      · exact Nat.le_max_left _ _
      · exact Nat.le_trans (ih hrest) (Nat.le_max_right _ _)

/-- **The loop is the schedule.** -/
theorem inTurns_eq_rounds (crew : Lineup) : inTurns crew = rounds crew :=
  inTurns_eq_of_bound _ crew fun _ hmem => Nat.lt_succ_of_le (le_longest hmem)

/-- In the schedule everyone is destroyed in the end. -/
theorem destroyed_mem_rounds {crew : Lineup} {member : Ticket × Nat} (h : member ∈ crew) :
    .destroyed member.1 ∈ rounds crew := by
  have hround : member.2 ∈ List.range (longest crew + 1) :=
    List.mem_range.mpr (Nat.lt_succ_of_le (le_longest h))
  refine List.mem_flatMap.mpr ⟨member.2, hround, List.mem_flatMap.mpr ⟨member, h, ?_⟩⟩
  rw [turnIn, if_neg (Nat.lt_irrefl _), if_pos rfl]
  exact List.mem_cons_of_mem _ List.mem_cons_self

end Lineup

/-! ## Fairness -/

/-- Whether an event is a resumption of this coroutine. -/
def Event.resumes (ticket : Ticket) : Event → Bool
  | .resumed other _ => other = ticket
  | _ => false

/-- How often a coroutine is resumed in a piece of a history. -/
def resumptions (ticket : Ticket) (events : List Event) : Nat :=
  events.countP (Event.resumes ticket)

theorem resumptions_cons_resumed (ticket other : Ticket) (answer : Except Fault Progress)
    (events : List Event) : resumptions ticket (.resumed other answer :: events)
      = resumptions ticket events + if other = ticket then 1 else 0 := by
  rw [resumptions, List.countP_cons, ← resumptions]
  simp only [Event.resumes, decide_eq_true_eq]

theorem resumptions_cons_destroyed (ticket other : Ticket) (events : List Event) :
    resumptions ticket (.destroyed other :: events) = resumptions ticket events :=
  List.countP_cons_of_neg (Bool.false_ne_true)

namespace Lineup

/-- Whoever is resumed by the loop stands in the queue. -/
theorem mem_of_resumed {crew : Lineup} {ticket : Ticket} {answer : Except Fault Progress}
    (h : .resumed ticket answer ∈ inTurns crew) : ticket ∈ crew.map Prod.fst := by
  induction crew using inTurns.induct with
  | case1 => simp [inTurns] at h
  | case2 first rest ih =>
      rw [inTurns, List.mem_append] at h
      rw [List.map_cons, List.mem_cons]
      rcases h with h | h
      · simp only [turn, List.mem_cons, Event.resumed.injEq, reduceCtorEq, List.not_mem_nil,
          or_false] at h
        exact .inl h.1
      · exact .inr (ih h)
  | case3 first waits rest ih =>
      rw [inTurns, List.mem_append] at h
      rw [List.map_cons, List.mem_cons]
      rcases h with h | h
      · simp only [turn, List.mem_singleton, Event.resumed.injEq] at h
        exact .inl h.1
      · have hmem := ih h
        rw [List.map_append, List.mem_append] at hmem
        rcases hmem with hrest | hlast
        · exact .inr hrest
        · exact .inl (List.mem_singleton.mp hlast)

/-- The numbers of past turns along a queue: they never fall, and rise by one at most. -/
def Level (past : Ticket → Nat) (crew : Lineup) : Prop :=
  crew.Pairwise fun a b => past a.1 ≤ past b.1 ∧ past b.1 ≤ past a.1 + 1

/-- After its turn the front coroutine is level with the rest when it stands behind it. -/
theorem Level.rotate {past : Ticket → Nat} {ticket : Ticket} {waits left : Nat} {rest : Lineup}
    (h : Level past ((ticket, waits) :: rest)) (hfresh : ticket ∉ rest.map Prod.fst) :
    Level (fun t => past t + if ticket = t then 1 else 0) (rest ++ [(ticket, left)]) := by
  obtain ⟨hfirst, hrest⟩ := List.pairwise_cons.mp h
  have hother : ∀ member ∈ rest, ¬ ticket = member.1 := by
    rintro member hmem rfl
    exact hfresh (List.mem_map_of_mem hmem)
  rw [Level, List.pairwise_append]
  refine ⟨hrest.imp_of_mem ?_, List.pairwise_singleton _ _, ?_⟩
  · intro a b ha hb hab
    rwa [if_neg (hother a ha), if_neg (hother b hb)]
  · intro a ha b hb
    rw [List.mem_singleton] at hb
    subst hb
    have hbound := hfirst a ha
    rw [if_neg (hother a ha), if_pos rfl]
    exact ⟨hbound.2, Nat.add_le_add_right hbound.1 1⟩

/-- Nobody stands in the queue twice after a turn. -/
theorem nodup_rotate {ticket : Ticket} {waits left : Nat} {rest : Lineup}
    (h : (((ticket, waits) :: rest).map Prod.fst).Nodup) :
    ((rest ++ [(ticket, left)]).map Prod.fst).Nodup := by
  obtain ⟨hout, hrest⟩ := List.nodup_cons.mp h
  rw [List.map_append, List.nodup_append]
  refine ⟨hrest, List.pairwise_singleton _ _, ?_⟩
  rintro a ha b hb rfl
  exact hout (List.mem_singleton.mp hb ▸ ha)

/-- In a level queue nobody has had fewer turns than the front coroutine. -/
theorem Level.front_le {past : Ticket → Nat} {first : Ticket × Nat} {rest : Lineup}
    (h : Level past (first :: rest)) {other : Ticket}
    (hother : other ∈ (first :: rest).map Prod.fst) : past first.1 ≤ past other := by
  rw [List.map_cons, List.mem_cons] at hother
  rcases hother with rfl | hrest
  · exact Nat.le_refl _
  · obtain ⟨member, hmem, rfl⟩ := List.mem_map.mp hrest
    exact ((List.pairwise_cons.mp h).1 member hmem).1

/-- The loop is fair from every level queue on, past turns included. -/
theorem resumptions_le_of_level (crew : Lineup) : ∀ (past : Ticket → Nat),
    Level past crew → (crew.map Prod.fst).Nodup →
    ∀ before ticket answer after, inTurns crew = before ++ .resumed ticket answer :: after →
    ∀ other ∈ crew.map Prod.fst, .destroyed other ∉ before →
      past ticket + resumptions ticket before ≤ past other + resumptions other before := by
  induction crew using inTurns.induct with
  | case1 =>
      intro past _ _ before ticket answer after heq
      simp [inTurns] at heq
  | case2 first rest ih =>
      intro past hlevel hnodup before ticket answer after heq other hother halive
      obtain ⟨hfresh, hnodup⟩ := List.nodup_cons.mp hnodup
      rw [inTurns] at heq
      -- the resumption is the first event, or it lies behind the end of the front coroutine
      rcases before with _ | ⟨event, before⟩
      · obtain ⟨⟨rfl, -⟩, -⟩ : (first = ticket ∧ _) ∧ _ := by simpa [turn] using heq
        exact hlevel.front_le hother
      rcases before with _ | ⟨event', before⟩
      · simp [turn] at heq
      obtain ⟨rfl, rfl, hlater⟩ :
          .resumed first (.ok .ended) = event ∧ .destroyed first = event'
            ∧ inTurns rest = before ++ .resumed ticket answer :: after := by
        simpa [turn] using heq
      have hgone : first ≠ other := by
        rintro rfl
        simp at halive
      have hrest : other ∈ rest.map Prod.fst := by
        rw [List.map_cons, List.mem_cons] at hother
        exact hother.resolve_left hgone.symm
      have hthis : first ≠ ticket := by
        rintro rfl
        have hresumed : .resumed first answer ∈ inTurns rest := by
          rw [hlater]
          exact List.mem_append_right _ List.mem_cons_self
        exact hfresh (mem_of_resumed hresumed)
      have hle := ih past (List.pairwise_cons.mp hlevel).2 hnodup before ticket answer after hlater
        other hrest (fun hmem => halive (by simp [hmem]))
      rw [resumptions_cons_resumed, resumptions_cons_destroyed, resumptions_cons_resumed,
        resumptions_cons_destroyed, if_neg hthis, if_neg hgone]
      exact hle
  | case3 first waits rest ih =>
      intro past hlevel hnodup before ticket answer after heq other hother halive
      have hfresh := (List.nodup_cons.mp hnodup).1
      rw [inTurns] at heq
      rcases before with _ | ⟨event, before⟩
      · obtain ⟨⟨rfl, -⟩, -⟩ : (first = ticket ∧ _) ∧ _ := by simpa [turn] using heq
        exact hlevel.front_le hother
      obtain ⟨rfl, hlater⟩ : .resumed first (.ok .waiting) = event
          ∧ inTurns (rest ++ [(first, waits)]) = before ++ .resumed ticket answer :: after := by
        simpa [turn] using heq
      -- the front coroutine has moved to the back, and its turn now counts as a past one
      have hmoved : ((rest ++ [(first, waits)]).map Prod.fst).Nodup := nodup_rotate hnodup
      have hmem : other ∈ (rest ++ [(first, waits)]).map Prod.fst := by
        rw [List.map_append, List.mem_append]
        rw [List.map_cons, List.mem_cons] at hother
        exact hother.symm.imp_right (by rintro rfl; exact List.mem_singleton_self _)
      have hle := ih _ (hlevel.rotate hfresh) hmoved before ticket answer after hlater other hmem
        (fun hdestroyed => halive (by simp [hdestroyed]))
      rw [resumptions_cons_resumed, resumptions_cons_resumed]
      omega

/-- **Nobody is resumed once more before everyone still alive has been resumed as often.** -/
theorem resumptions_le {crew : Lineup} (hnodup : (crew.map Prod.fst).Nodup)
    {before after : List Event} {ticket : Ticket} {answer : Except Fault Progress}
    (heq : rounds crew = before ++ .resumed ticket answer :: after)
    {other : Ticket} (hother : other ∈ crew.map Prod.fst) (halive : .destroyed other ∉ before) :
    resumptions ticket before ≤ resumptions other before := by
  have hlevel : Level (fun _ => 0) crew :=
    List.pairwise_of_forall fun _ _ => ⟨Nat.le_refl 0, Nat.zero_le 1⟩
  rw [← inTurns_eq_rounds] at heq
  have hle := resumptions_le_of_level crew _ hlevel hnodup before ticket answer after heq other
    hother halive
  rwa [Nat.zero_add, Nat.zero_add] at hle

end Lineup

end GridDispatch
