/-
What a course tells.

This file is about courses alone, which are lists of events, and opens no run. Serial numbers are
counted on from those the thread has used, and this is all that the past of a thread shows in
(`course_eq_shift`). Nothing in a course is taken from a program but its parameters
(`Prepared.course_eq`). And every coroutine waits as often as it should and is not resumed after it
has ended (`lived_of_mem_course`). For that the events of one coroutine are picked out of the
course, from the turns up: what is about it in a queue (`life_turnsUpTo`), in a workgroup
(`life_course`) and in a share (`life_courseAll`), where no two workgroups have a coroutine in
common.
-/
import GridDispatch.Proofs.Course
import GridDispatch.Proofs.Recovery

set_option autoImplicit false

namespace GridDispatch

variable {ρ σ : Type}

/-! ## Courses of threads with a past, and of other programs -/

namespace Lineup

/-- The same coroutines on a thread that had begun so many more. -/
def shift (offset : Nat) (crew : Lineup) : Lineup :=
  crew.map fun member => (member.1.shift offset, member.2)

theorem length_shift (offset : Nat) (crew : Lineup) : (crew.shift offset).length = crew.length :=
  List.length_map _

theorem work_shift (offset : Nat) (crew : Lineup) : (crew.shift offset).work = crew.work := by
  rw [work_eq_sum, work_eq_sum, shift, List.map_map]
  rfl

theorem turnsUpTo_shift (offset room : Nat) : ∀ crew : Lineup,
    (crew.shift offset).turnsUpTo room = (crew.turnsUpTo room).map (Event.shift offset) := by
  induction room with
  | zero => rintro (_ | ⟨member, crew⟩) <;> rfl
  | succ room ih =>
      intro crew
      match crew with
      | [] => rfl
      | (ticket, 0) :: rest =>
          have hshift : shift offset ((ticket, 0) :: rest)
              = (ticket.shift offset, 0) :: shift offset rest := rfl
          rw [hshift, turnsUpTo, turnsUpTo, ih, List.map_append]
          rfl
      | (ticket, waits + 1) :: rest =>
          have hshift : shift offset ((ticket, waits + 1) :: rest)
              = (ticket.shift offset, waits + 1) :: shift offset rest := rfl
          have hbehind : shift offset rest ++ [(ticket.shift offset, waits)]
              = shift offset (rest ++ [(ticket, waits)]) := by
            rw [shift, shift, List.map_append]
            rfl
          rw [hshift, turnsUpTo, turnsUpTo, hbehind, ih, List.map_append]
          rfl

theorem advance_shift (offset : Nat) (crew : Lineup) (stats : Stats) :
    (crew.shift offset).advance stats = crew.advance stats := by
  rw [advance, advance, length_shift, total, total, work_shift]

theorem course_shift (offset : Nat) (crew : Lineup) (stats : Stats) :
    (crew.shift offset).course stats = (crew.course stats).map (Event.shift offset) := by
  have hbegun : (crew.shift offset).map (fun member => Event.begun member.1)
      = (crew.map fun member => Event.begun member.1).map (Event.shift offset) := by
    rw [shift, List.map_map, List.map_map]
    rfl
  rw [course, course, hbegun, length_shift, turnsUpTo_shift, List.map_append]
  split
  · rfl
  · rfl

theorem courseAll_shift (offset : Nat) (crews : List Lineup) : ∀ stats : Stats,
    courseAll stats (crews.map (shift offset))
      = ((courseAll stats crews).1, (courseAll stats crews).2.map (Event.shift offset)) := by
  induction crews with
  | nil => exact fun _ => rfl
  | cons crew rest ih =>
      intro stats
      rw [List.map_cons, courseAll, courseAll, advance_shift, course_shift]
      cases crew.advance stats with
      | error fault => rfl
      | ok after =>
          dsimp only
          rw [ih, List.map_append]

end Lineup

namespace Context

variable (context : Context ρ σ) (waits : Coord → Subgroups → Nat) (thread begun : Nat)

theorem crewAt_eq_shift (place : Nat) : context.crewAt waits thread begun place
    = (context.crewAt waits thread 0 place).shift begun := by
  rw [crewAt, crewAt, lineup, lineup, Lineup.shift, List.map_map]
  refine List.map_congr_left fun i _ => ?_
  simp only [Function.comp_apply, Ticket.shift, Nat.zero_add, Nat.add_assoc]

/-- The past of a thread shows in the serial numbers only. -/
theorem course_eq_shift : context.course waits thread begun
    = ((context.course waits thread 0).1,
      (context.course waits thread 0).2.map (Event.shift begun)) := by
  have hcrews : (List.range' 0 (context.shareSize thread)).map (context.crewAt waits thread begun)
      = ((List.range' 0 (context.shareSize thread)).map (context.crewAt waits thread 0)).map
          (Lineup.shift begun) := by
    rw [List.map_map]
    exact List.map_congr_left fun place _ => context.crewAt_eq_shift waits thread begun place
  rw [course, course, hcrews, Lineup.courseAll_shift]
  cases memoryFault context.memorySize with
  | some fault => rfl
  | none => rfl

/-- Programs with the same parameters take the same course, on the same number of threads and over
the same grid. -/
theorem Prepared.course_eq {ρ' σ' : Type} {context : Context ρ σ} {other : Context ρ' σ'}
    {program : Program ρ σ} {program' : Program ρ' σ'} {threads : Nat} {grid : Coord}
    (h : context.Prepared threads program grid) (h' : other.Prepared threads program' grid)
    (hinfo : program.info = program'.info) (hmemory : context.memorySize = other.memorySize) :
    context.course waits thread begun = other.course waits thread begun := by
  have hstride : context.stride = other.stride := by
    rw [stride, stride, h.threads_eq, h'.threads_eq]
  have hshare : context.shareSize thread = other.shareSize thread := by
    rw [shareSize, shareSize, h.workgroups_eq, h'.workgroups_eq, hstride]
  have hat : context.shareAt thread = other.shareAt thread := by
    funext place
    rw [shareAt, shareAt, h.grid_eq, h'.grid_eq, hstride]
  have hsubgroups : context.constants.subgroupsPerWorkgroup
      = other.constants.subgroupsPerWorkgroup := by
    rw [h.subgroups_eq, h'.subgroups_eq, hinfo]
  have hbarriers : context.hasBarriers = other.hasBarriers := by
    rw [h.hasBarriers_eq, h'.hasBarriers_eq, hinfo]
  have hcount : context.coroutineCount = other.coroutineCount := by
    rw [coroutineCount, coroutineCount, hsubgroups, hbarriers]
  have hpart : context.coroutinePart = other.coroutinePart := by
    funext index
    rw [coroutinePart, coroutinePart, hsubgroups, hbarriers]
  have hcrew : context.crewAt waits thread begun = other.crewAt waits thread begun := by
    funext place
    rw [crewAt, crewAt, lineup, lineup, hcount, hpart, hat]
  rw [course, course, hmemory, hshare, hcrew]

end Context

/-! ## Lives -/

namespace Ticket

/-- A coroutine is resumed and waits so many times, and then this happens to it. -/
def waitsThen (ticket : Ticket) (waits : Nat) (last : List Event) : List Event :=
  List.replicate waits (.resumed ticket (.ok .waiting)) ++ last

theorem waitsThen_succ (ticket : Ticket) (waits : Nat) (last : List Event) :
    ticket.waitsThen (waits + 1) last
      = .resumed ticket (.ok .waiting) :: ticket.waitsThen waits last := by
  rw [waitsThen, List.replicate_succ, List.cons_append, waitsThen]

/-- The coroutine is begun, waits so many times, ends, and is destroyed. -/
def Finishes (ticket : Ticket) (waits : Nat) (events : List Event) : Prop :=
  ticket.life events
    = .begun ticket :: ticket.waitsThen waits [.resumed ticket (.ok .ended), .destroyed ticket]

/-- The coroutine is begun and does not come to its end. It waits no more often than that, and it
may be destroyed then. -/
def Stops (ticket : Ticket) (waits : Nat) (events : List Event) : Prop :=
  ∃ done last, done ≤ waits ∧ (last = [] ∨ last = [.destroyed ticket])
    ∧ ticket.life events = .begun ticket :: ticket.waitsThen done last

/-- Nothing happens to a coroutine that no event is about. -/
theorem life_eq_nil {ticket : Ticket} {events : List Event}
    (h : ∀ event ∈ events, ¬ event.concerns ticket = true) : ticket.life events = [] :=
  List.filter_eq_nil_iff.mpr h

end Ticket

namespace Lineup

/-- Whoever a turn is about has it. -/
theorem eq_of_concerns_turn {member : Ticket × Nat} {event : Event} {ticket : Ticket}
    (h : event ∈ turn member) (hconcerns : event.concerns ticket = true) : member.1 = ticket := by
  obtain ⟨other, waits⟩ := member
  cases waits with
  | zero =>
      rcases List.mem_pair.mp h with rfl | rfl
      · exact of_decide_eq_true hconcerns
      · exact of_decide_eq_true hconcerns
  | succ waits =>
      rw [List.mem_singleton.mp h] at hconcerns
      exact of_decide_eq_true hconcerns

/-- Turns are about those who stand in the queue. -/
theorem mem_of_concerns_turnsUpTo (room : Nat) : ∀ {crew : Lineup} {event : Event}
    {ticket : Ticket}, event ∈ crew.turnsUpTo room → event.concerns ticket = true →
      ticket ∈ crew.map Prod.fst := by
  induction room with
  | zero =>
      intro crew event ticket h hconcerns
      cases crew with
      | nil => exact absurd h List.not_mem_nil
      | cons member rest =>
          rw [List.mem_singleton.mp h] at hconcerns
          rw [← of_decide_eq_true hconcerns]
          exact List.mem_cons_self
  | succ room ih =>
      intro crew event ticket h hconcerns
      match crew with
      | [] => exact absurd h List.not_mem_nil
      | (other, 0) :: rest =>
          rw [turnsUpTo, List.mem_append] at h
          rcases h with h | h
          · rw [← eq_of_concerns_turn h hconcerns]
            exact List.mem_cons_self
          · exact List.mem_cons_of_mem _ (ih h hconcerns)
      | (other, waits + 1) :: rest =>
          rw [turnsUpTo, List.mem_append] at h
          rcases h with h | h
          · rw [← eq_of_concerns_turn h hconcerns]
            exact List.mem_cons_self
          · have hmem := ih h hconcerns
            rw [List.map_append, List.mem_append] at hmem
            rcases hmem with hrest | hlast
            · exact List.mem_cons_of_mem _ hrest
            · rw [List.mem_singleton.mp hlast]
              exact List.mem_cons_self

theorem life_turn_other {member : Ticket × Nat} {ticket : Ticket} (h : ticket ≠ member.1) :
    ticket.life (turn member) = [] :=
  Ticket.life_eq_nil fun _ hmem hconcerns => h (eq_of_concerns_turn hmem hconcerns).symm

theorem life_turn_ended (ticket : Ticket) :
    ticket.life (turn (ticket, 0)) = [.resumed ticket (.ok .ended), .destroyed ticket] :=
  List.filter_eq_self.mpr fun event hmem => by
    rcases List.mem_pair.mp hmem with rfl | rfl
    · exact Event.concerns_resumed ticket _
    · exact Event.concerns_destroyed ticket

theorem life_turn_waiting (ticket : Ticket) (waits : Nat) :
    ticket.life (turn (ticket, waits + 1)) = [.resumed ticket (.ok .waiting)] :=
  List.filter_eq_self.mpr fun event hmem => by
    rw [List.mem_singleton.mp hmem]
    exact Event.concerns_resumed ticket _

/-- Everyone waits as often as it should and ends, or not all resumptions could be counted and it
stops before. The induction is on the resumptions to spare. -/
theorem life_turnsUpTo (room : Nat) : ∀ {crew : Lineup}, (crew.map Prod.fst).Nodup →
    ∀ member ∈ crew,
      member.1.life (crew.turnsUpTo room) = member.1.waitsThen member.2
          [.resumed member.1 (.ok .ended), .destroyed member.1]
        ∨ room < crew.work ∧ ∃ done last, done ≤ member.2
          ∧ (last = [] ∨ last = [.destroyed member.1])
          ∧ member.1.life (crew.turnsUpTo room) = member.1.waitsThen done last := by
  induction room with
  | zero =>
      intro crew _ member hmember
      cases crew with
      | nil => exact absurd hmember List.not_mem_nil
      | cons first rest =>
          refine .inr ⟨by rw [work_cons]; omega, 0, member.1.life [.destroyed first.1],
            Nat.zero_le _, ?_, rfl⟩
          by_cases hfirst : member.1 = first.1
          · rw [hfirst]
            exact .inr (Ticket.life_concat [] (Event.concerns_destroyed first.1))
          · refine .inl (Ticket.life_eq_nil fun event hmem hconcerns => hfirst ?_)
            rw [List.mem_singleton.mp hmem] at hconcerns
            exact (of_decide_eq_true hconcerns).symm
  | succ room ih =>
      intro crew hnodup member hmember
      rcases crew with - | ⟨⟨ticket, - | waits⟩, rest⟩
      · exact absurd hmember List.not_mem_nil
      · obtain ⟨hout, hrest⟩ := List.nodup_cons.mp hnodup
        rw [turnsUpTo, Ticket.life_append]
        rcases List.mem_cons.mp hmember with rfl | hmem
        -- the front coroutine has ended, and no later turn is about it
        · have hgone : ticket.life (turnsUpTo room rest) = [] :=
            Ticket.life_eq_nil fun event hmem hconcerns =>
              hout (mem_of_concerns_turnsUpTo room hmem hconcerns)
          rw [hgone, life_turn_ended]
          exact .inl rfl
        · have hne : member.1 ≠ ticket := ne_of_mem_of_not_mem (List.mem_map_of_mem hmem) hout
          rw [life_turn_other hne, List.nil_append]
          refine (ih hrest member hmem).imp_right fun hstops => ⟨?_, hstops.2⟩
          have hroom := hstops.1
          rw [work_cons]
          omega
      · have hout := (List.nodup_cons.mp hnodup).1
        have hbehind : ((rest ++ [(ticket, waits)]).map Prod.fst).Nodup := nodup_rotate hnodup
        rw [turnsUpTo, Ticket.life_append, work_rotate, Nat.add_comm 1, Nat.add_lt_add_iff_right]
        rcases List.mem_cons.mp hmember with rfl | hmem
        -- behind the rest it waits once less, in either way to go on from there
        · rw [life_turn_waiting, Ticket.waitsThen_succ]
          rcases ih hbehind (ticket, waits) (List.mem_append_right _ (List.mem_singleton_self _))
            with hlife | ⟨hroom, done, last, hdone, hlast, hlife⟩
          · rw [hlife]
            exact .inl rfl
          · refine .inr ⟨hroom, done + 1, last, Nat.succ_le_succ hdone, hlast, ?_⟩
            rw [hlife, Ticket.waitsThen_succ]
            rfl
        · have hne : member.1 ≠ ticket := ne_of_mem_of_not_mem (List.mem_map_of_mem hmem) hout
          rw [life_turn_other hne, List.nil_append]
          exact ih hbehind member (List.mem_append_left _ hmem)

/-- Beginnings are about those who are begun. -/
theorem mem_of_concerns_begun {crew : Lineup} {event : Event} {ticket : Ticket}
    (h : event ∈ crew.map fun member => Event.begun member.1)
    (hconcerns : event.concerns ticket = true) : ticket ∈ crew.map Prod.fst := by
  obtain ⟨member, hmem, rfl⟩ := List.mem_map.mp h
  rw [← of_decide_eq_true hconcerns]
  exact List.mem_map_of_mem hmem

theorem mem_of_concerns_course {crew : Lineup} {stats : Stats} {event : Event} {ticket : Ticket}
    (h : event ∈ crew.course stats) (hconcerns : event.concerns ticket = true) :
    ticket ∈ crew.map Prod.fst := by
  rw [course, List.mem_append] at h
  rcases h with h | h
  · exact mem_of_concerns_begun h hconcerns
  · split at h
    · exact mem_of_concerns_turnsUpTo _ h hconcerns
    · exact absurd h List.not_mem_nil

/-- The coroutines of workgroups that are run one after another. -/
def tickets (crews : List Lineup) : List Ticket :=
  crews.flatMap fun crew => crew.map Prod.fst

theorem mem_of_concerns_courseAll (crews : List Lineup) : ∀ {stats : Stats} {event : Event}
    {ticket : Ticket}, event ∈ (courseAll stats crews).2 → event.concerns ticket = true →
      ticket ∈ tickets crews := by
  induction crews with
  | nil => exact fun h _ => absurd h List.not_mem_nil
  | cons crew rest ih =>
      intro stats event ticket h hconcerns
      rw [tickets, List.flatMap_cons, List.mem_append]
      rw [courseAll] at h
      split at h
      · exact .inl (mem_of_concerns_course h hconcerns)
      · rcases List.mem_append.mp h with h | h
        · exact .inl (mem_of_concerns_course h hconcerns)
        · exact .inr (ih h hconcerns)

theorem life_begun {crew : Lineup} (hnodup : (crew.map Prod.fst).Nodup) {member : Ticket × Nat}
    (hmember : member ∈ crew) :
    member.1.life (crew.map fun member => Event.begun member.1) = [.begun member.1] := by
  induction crew with
  | nil => exact absurd hmember List.not_mem_nil
  | cons first rest ih =>
      obtain ⟨hout, hrest⟩ := List.nodup_cons.mp hnodup
      rcases List.mem_cons.mp hmember with rfl | hmem
      · have hgone : member.1.life (rest.map fun member => Event.begun member.1) = [] :=
          Ticket.life_eq_nil fun event hmem hconcerns =>
            hout (mem_of_concerns_begun hmem hconcerns)
        rw [List.map_cons, Ticket.life, List.filter_cons_of_pos (Event.concerns_begun member.1),
          ← Ticket.life, hgone]
      · have hne : member.1 ≠ first.1 := ne_of_mem_of_not_mem (List.mem_map_of_mem hmem) hout
        have hother : ¬ (Event.begun first.1).concerns member.1 = true :=
          fun hconcerns => hne (of_decide_eq_true hconcerns).symm
        rw [List.map_cons, Ticket.life, List.filter_cons_of_neg hother]
        exact ih hrest hmem

/-- Everyone of a workgroup finishes, unless its work can not be counted. -/
theorem life_course {crew : Lineup} (hnodup : (crew.map Prod.fst).Nodup) {stats : Stats}
    (hcount : stats.resumptions < word) {member : Ticket × Nat} (hmember : member ∈ crew) :
    member.1.Finishes member.2 (crew.course stats)
      ∨ (∀ after, crew.advance stats ≠ .ok after)
        ∧ member.1.Stops member.2 (crew.course stats) := by
  rw [Ticket.Finishes, Ticket.Stops, course, Ticket.life_append, life_begun hnodup hmember]
  by_cases hadd : stats.coroutines + crew.length < word
  · rw [if_pos hadd]
    rcases life_turnsUpTo (word - 1 - stats.resumptions) hnodup member hmember with
      hlife | ⟨hroom, done, last, hdone, hlast, hlife⟩
    · rw [hlife]
      exact .inl rfl
    · refine .inr ⟨fun after hafter => ?_, done, last, hdone, hlast, ?_⟩
      · have hwork := (advance_eq_ok hafter).1
        omega
      · rw [hlife]
        rfl
  -- all were begun, but not even that can be counted
  · rw [if_neg hadd]
    refine .inr ⟨fun after hafter => ?_, 0, [], Nat.zero_le _, .inl rfl, rfl⟩
    rw [advance, if_neg hadd] at hafter
    cases hafter

/-- Everyone finishes, unless the work can not be counted. Then some stop before, and others are
not begun. The induction is on the workgroups, which have no coroutines in common. -/
theorem life_courseAll (crews : List Lineup) : ∀ {stats : Stats}, stats.resumptions < word →
    (tickets crews).Nodup → ∀ crew ∈ crews, ∀ member ∈ crew,
      member.1.Finishes member.2 (courseAll stats crews).2
        ∨ (∀ after, (courseAll stats crews).1 ≠ .ok after)
          ∧ (member.1.Stops member.2 (courseAll stats crews).2
            ∨ member.1.life (courseAll stats crews).2 = []) := by
  induction crews with
  | nil => exact fun _ _ crew hcrew => absurd hcrew List.not_mem_nil
  | cons first rest ih =>
      intro stats hcount hnodup crew hcrew member hmember
      rw [tickets, List.flatMap_cons, List.nodup_append] at hnodup
      obtain ⟨hfirst, hrest, hapart⟩ := hnodup
      have hlater : crew ∈ rest → member.1 ∉ first.map Prod.fst := by
        intro hmem hin
        exact hapart _ hin _ (List.mem_flatMap.mpr ⟨crew, hmem, List.mem_map_of_mem hmember⟩) rfl
      have hnone : crew ∈ rest → member.1.life (first.course stats) = [] :=
        fun hmem => Ticket.life_eq_nil fun event hevent hconcerns =>
          hlater hmem (mem_of_concerns_course hevent hconcerns)
      rw [courseAll]
      cases hadvance : first.advance stats with
      | error fault =>
          dsimp only
          have hfault : ∀ after, (.error fault : Except Fault Stats) ≠ .ok after := by
            intro after heq
            cases heq
          rcases List.mem_cons.mp hcrew with rfl | hmem
          · exact (life_course hfirst hcount hmember).imp_right
              fun hstops => ⟨hfault, .inl hstops.2⟩
          · exact .inr ⟨hfault, .inr (hnone hmem)⟩
      | ok after =>
          obtain ⟨hroom, hafter⟩ := advance_eq_ok hadvance
          have hcount' : after.resumptions < word := hafter ▸ hroom
          dsimp only
          rcases List.mem_cons.mp hcrew with rfl | hmem
          · have hgone : member.1.life (courseAll after rest).2 = [] :=
              Ticket.life_eq_nil fun event hevent hconcerns =>
                hapart _ (List.mem_map_of_mem hmember) _
                  (mem_of_concerns_courseAll rest hevent hconcerns) rfl
            rw [Ticket.Finishes, Ticket.life_append, hgone, List.append_nil]
            exact .inl ((life_course hfirst hcount hmember).resolve_right
              fun hfault => hfault.1 after hadvance)
          · rw [Ticket.Finishes, Ticket.Stops, Ticket.life_append, hnone hmem, List.nil_append]
            exact ih hcount' hrest crew hmem member hmember

end Lineup

namespace Context

variable (context : Context ρ σ) (waits : Coord → Subgroups → Nat) (thread begun : Nat)

/-- A coroutine of a workgroup is known by its serial number. -/
theorem exists_of_mem_crewAt {place : Nat} {member : Ticket × Nat}
    (h : member ∈ context.crewAt waits thread begun place) :
    ∃ i < context.coroutineCount, member.1.serial = begun + place * context.coroutineCount + i
      ∧ member.2 = waits member.1.workgroup member.1.subgroups := by
  obtain ⟨i, hi, rfl⟩ := List.mem_map.mp h
  exact ⟨i, List.mem_range.mp hi, rfl, rfl⟩

/-- Serial numbers of different workgroups are different. -/
theorem nodup_tickets (places : List Nat) (hplaces : places.Nodup) :
    (Lineup.tickets (places.map (context.crewAt waits thread begun))).Nodup := by
  rw [Lineup.tickets, List.flatMap_map, List.nodup_flatMap]
  refine ⟨fun place _ => context.nodup_lineup _ _ _, hplaces.imp fun {p q} hne => ?_⟩
  intro ticket hp hq
  obtain ⟨member, hmember, rfl⟩ := List.mem_map.mp hp
  obtain ⟨other, hother, heq⟩ := List.mem_map.mp hq
  obtain ⟨i, hi, hserial, -⟩ := context.exists_of_mem_crewAt waits thread begun hmember
  obtain ⟨j, hj, hserial', -⟩ := context.exists_of_mem_crewAt waits thread begun hother
  rw [heq, hserial] at hserial'
  -- a serial number tells the place by a division
  have hplace : ∀ place index : Nat, index < context.coroutineCount →
      (place * context.coroutineCount + index) / context.coroutineCount = place := by
    intro place index hindex
    rw [Nat.mul_comm, Nat.mul_add_div (by omega), Nat.div_eq_of_lt hindex, Nat.add_zero]
  have hsame : p * context.coroutineCount + i = q * context.coroutineCount + j := by omega
  apply hne
  rw [← hplace p i hi, hsame, hplace q j hj]

/-- **Whoever is begun in a course** finishes after as many waits as it should have, unless the
dispatch faults. Then it may stop before. -/
theorem lived_of_mem_course {ticket : Ticket}
    (h : .begun ticket ∈ (context.course waits thread begun).2) :
    ticket.Finishes (waits ticket.workgroup ticket.subgroups)
        (context.course waits thread begun).2
      ∨ (∀ stats, (context.course waits thread begun).1 ≠ .ok stats)
        ∧ ticket.Stops (waits ticket.workgroup ticket.subgroups)
          (context.course waits thread begun).2 := by
  rw [course] at h ⊢
  cases hmemory : memoryFault context.memorySize with
  | some fault =>
      rw [hmemory] at h
      exact absurd h List.not_mem_nil
  | none =>
      rw [hmemory] at h
      dsimp only at h ⊢
      have hmem := Lineup.mem_of_concerns_courseAll _ h (Event.concerns_begun ticket)
      obtain ⟨crew, hcrew, hticket⟩ := List.mem_flatMap.mp hmem
      obtain ⟨member, hmember, rfl⟩ := List.mem_map.mp hticket
      obtain ⟨place, -, hplace⟩ := List.mem_map.mp hcrew
      obtain ⟨-, -, -, hwaits⟩ :=
        context.exists_of_mem_crewAt waits thread begun (hplace ▸ hmember)
      rw [← hwaits]
      rcases Lineup.life_courseAll _ (show Stats.zero.resumptions < word by decide)
        (context.nodup_tickets waits thread begun _ List.nodup_range') crew hcrew member hmember
        with hfinishes | ⟨hfault, hstops⟩
      · exact .inl hfinishes
      · refine .inr ⟨fun stats hstats => ?_, hstops.resolve_right fun hnone => ?_⟩
        · cases hanswer : (Lineup.courseAll .zero ((List.range' 0 (context.shareSize thread)).map
              (context.crewAt waits thread begun))).1 with
          | error fault =>
              rw [hanswer] at hstats
              cases hstats
          | ok stats => exact hfault stats hanswer
        · rw [← Ticket.begun_mem_life, hnone] at h
          exact List.not_mem_nil h

end Context

end GridDispatch
