/-
The schedule of a dispatch.

A thread runs the workgroups of its share one after another, and each takes its course
(`runWorkgroup_lands`). Where the next one finds the scene depends on those before it, so
the numbers of waits come out of the run one workgroup at a time, and are put together from
the first on (`glue`). That the share takes its course is `runFrom_lands`; what is known of
such a course, be it of coroutines that keep a pace or of any others, is read off it.

Before the share begins, what an earlier dispatch left in the queue is destroyed; this is
the only trace of the past. A program is begun for nothing but what the context asks for
(`Context.Due`).

`Context.exists_schedules` says all of it at once, and that the schedule is fair: nobody is
resumed again before everyone still alive has been resumed as often, and a workgroup is
over before the next one begins.
-/
import GridDispatch.Coroutine.Kernel
import GridDispatch.Proofs.Partition
import GridDispatch.Proofs.WorkgroupSchedule
import Mathlib.Data.List.Nodup
import Mathlib.Tactic.Choose

set_option autoImplicit false

namespace GridDispatch

variable {ρ σ : Type} {backend : Backend ρ σ} {program : Program ρ σ} {constants : Constants}
  {due : Coord → Subgroups → Prop} {fine : Scene σ → Prop} {own : ρ → Prop}

/-! ## Workgroups in a row -/

namespace Lineup

/-- One workgroup after another, as long as the work can be counted. -/
def courseAll (stats : Stats) : List Lineup → Except Fault Stats × List Event
  | [] => (.ok stats, [])
  | crew :: rest =>
    match crew.advance stats with
    | .error fault => (.error fault, crew.course stats)
    | .ok after => ((courseAll after rest).1, crew.course stats ++ (courseAll after rest).2)

/-- As long as the resumptions can be counted, one schedule follows another. -/
theorem courseAll_eq_schedule (crews : List Lineup) : ∀ stats : Stats,
    stats.resumptions + (crews.map work).sum < word → stats.coroutines ≤ stats.resumptions →
    courseAll stats crews
      = (.ok ⟨stats.workgroups + crews.length, stats.coroutines + (crews.map List.length).sum,
          stats.resumptions + (crews.map work).sum⟩, crews.flatMap schedule) := by
  induction crews with
  | nil => exact fun _ _ _ => rfl
  | cons crew rest ih =>
      intro stats hroom hcoroutines
      rw [List.map_cons, List.sum_cons, ← Nat.add_assoc] at hroom
      have hfirst : stats.resumptions + crew.work < word :=
        Nat.lt_of_le_of_lt (Nat.le_add_right _ _) hroom
      obtain ⟨hadvance, hcourse⟩ := course_eq_schedule hfirst hcoroutines
      have hrest := ih ⟨stats.workgroups + 1, stats.coroutines + crew.length,
        stats.resumptions + crew.work⟩ hroom (Nat.add_le_add hcoroutines crew.length_le_work)
      dsimp only at hrest
      rw [courseAll, hadvance, hcourse]
      dsimp only
      rw [hrest, List.length_cons, List.map_cons, List.map_cons, List.sum_cons, List.sum_cons,
        List.flatMap_cons, Nat.add_assoc stats.workgroups, Nat.add_comm 1,
        Nat.add_assoc stats.coroutines, Nat.add_assoc stats.resumptions]

/-- And when they can not, the schedules are cut short. -/
theorem courseAll_cutShort (crews : List Lineup) : ∀ stats : Stats,
    word ≤ stats.resumptions + (crews.map work).sum → stats.resumptions < word →
    stats.coroutines ≤ stats.resumptions →
    (courseAll stats crews).1 = .error (.arithmetic .add)
      ∧ CutShort (crews.flatMap schedule) (courseAll stats crews).2 := by
  induction crews with
  | nil =>
      intro stats hroom hresumptions
      exact absurd hresumptions (Nat.not_lt.mpr hroom)
  | cons crew rest ih =>
      intro stats hroom hresumptions hcoroutines
      rw [List.map_cons, List.sum_cons, ← Nat.add_assoc] at hroom
      rw [courseAll, List.flatMap_cons]
      by_cases hfirst : stats.resumptions + crew.work < word
      · obtain ⟨hadvance, hcourse⟩ := course_eq_schedule hfirst hcoroutines
        rw [hadvance, hcourse]
        obtain ⟨herror, hcut⟩ := ih ⟨stats.workgroups + 1, stats.coroutines + crew.length,
          stats.resumptions + crew.work⟩ hroom hfirst
          (Nat.add_le_add hcoroutines crew.length_le_work)
        exact ⟨herror, hcut.prepend _⟩
      · obtain ⟨hadvance, hcut⟩ := course_cutShort (Nat.not_lt.mp hfirst) hresumptions
        rw [hadvance]
        exact ⟨rfl, hcut.append _⟩

end Lineup

/-! ## The schedule of a share -/

namespace Context

variable (context : Context ρ σ) (thread begun : Nat) (waits : Nat → Nat → Nat)

/-- The coroutines of the workgroup at a place of a thread's share. So many had been begun on
the thread before its share. -/
def lineupAt (place : Nat) : Lineup :=
  context.lineup (begun + place * context.coroutineCount) (context.shareAt thread place)
    (waits place)

/-- The schedule of so many workgroups of the share, one after another. -/
def scheduleFrom (place count : Nat) : List Event :=
  (List.range' place count).flatMap fun p => (context.lineupAt thread begun waits p).schedule

/-- The number of resumptions in it. -/
def workFrom (place : Nat) : Nat → Nat
  | 0 => 0
  | count + 1 => (context.lineupAt thread begun waits place).work + workFrom (place + 1) count

theorem workFrom_succ (place count : Nat) :
    context.workFrom thread begun waits place (count + 1)
      = (context.lineupAt thread begun waits place).work
        + context.workFrom thread begun waits (place + 1) count := rfl

theorem workFrom_eq_sum (count : Nat) : ∀ place : Nat,
    context.workFrom thread begun waits place count
      = (((List.range' place count).map (context.lineupAt thread begun waits)).map
          Lineup.work).sum := by
  induction count with
  | zero => exact fun _ => rfl
  | succ count ih =>
      intro place
      rw [workFrom_succ, ih, List.range'_succ, List.map_cons, List.map_cons, List.sum_cons]

theorem sum_length_lineupAt (places : List Nat) :
    ((places.map (context.lineupAt thread begun waits)).map List.length).sum
      = places.length * context.coroutineCount := by
  rw [List.map_map]
  have hconst : List.length ∘ context.lineupAt thread begun waits
      = fun _ => context.coroutineCount :=
    funext fun place => context.length_lineup _ _ _
  rw [hconst, List.map_const', List.sum_replicate_nat]

/-- As long as its resumptions can be counted, the course of a share is its schedule. -/
theorem share_eq_schedule {count : Nat} (h : context.workFrom thread begun waits 0 count < word) :
    Lineup.courseAll .zero ((List.range' 0 count).map (context.lineupAt thread begun waits))
      = (.ok ⟨count, count * context.coroutineCount,
          context.workFrom thread begun waits 0 count⟩,
        context.scheduleFrom thread begun waits 0 count) := by
  rw [workFrom_eq_sum] at h
  rw [Lineup.courseAll_eq_schedule _ .zero (by rwa [Stats.zero, Nat.zero_add]) (Nat.le_refl _),
    sum_length_lineupAt, ← workFrom_eq_sum, List.length_map, List.length_range', List.flatMap_map,
    Stats.zero, Nat.zero_add, Nat.zero_add, Nat.zero_add, scheduleFrom]

/-- And when they can not, it is cut short. -/
theorem share_cutShort {count : Nat} (h : word ≤ context.workFrom thread begun waits 0 count) :
    let share := Lineup.courseAll .zero
      ((List.range' 0 count).map (context.lineupAt thread begun waits))
    share.1 = .error (.arithmetic .add)
      ∧ CutShort (context.scheduleFrom thread begun waits 0 count) share.2 := by
  rw [workFrom_eq_sum] at h
  rw [scheduleFrom, ← List.flatMap_map]
  exact Lineup.courseAll_cutShort _ .zero (by rwa [Stats.zero, Nat.zero_add])
    (show 0 < word by decide) (Nat.le_refl _)

/-- The waits at one place, and those at the places behind it. -/
def glue (place : Nat) (first : Nat → Nat) (later : Nat → Nat → Nat) : Nat → Nat → Nat :=
  fun p => if p = place then first else later p

variable (first : Nat → Nat) (later : Nat → Nat → Nat) (place count : Nat)

theorem glue_self : glue place first later place = first :=
  if_pos rfl

theorem glue_of_ne {place p : Nat} (h : p ≠ place) : glue place first later p = later p :=
  if_neg h

/-- The coroutines of a share, with the waits of the first workgroup put before the others. -/
theorem map_lineupAt_glue : (List.range' place (count + 1)).map
      (context.lineupAt thread begun (glue place first later))
    = context.lineup (begun + place * context.coroutineCount) (context.shareAt thread place) first
      :: (List.range' (place + 1) count).map (context.lineupAt thread begun later) := by
  rw [List.range'_succ, List.map_cons, lineupAt, glue_self]
  refine congrArg _ (List.map_congr_left fun p hp => ?_)
  have hlt : place < p := (List.mem_range'_1.mp hp).1
  rw [lineupAt, glue_of_ne first later (Nat.ne_of_gt hlt), lineupAt]

theorem respects_glue {program : Program ρ σ} {backend : Backend ρ σ} {fine : Scene σ → Prop}
    (hfirst : context.Respects program backend fine (context.shareAt thread place) first)
    (hlater : ∀ p, place + 1 ≤ p → p < place + 1 + count →
      context.Respects program backend fine (context.shareAt thread p) (later p)) :
    ∀ p, place ≤ p → p < place + (count + 1) → context.Respects program backend fine
      (context.shareAt thread p) (glue place first later p) := by
  intro p hle hlt
  by_cases hp : p = place
  · rw [hp, glue_self]
    exact hfirst
  · rw [glue_of_ne first later hp]
    exact hlater p (by omega) (by omega)

end Context

/-! ## A share -/

/-- There are numbers that the coroutines can be said to wait, begun or not. -/
theorem exists_waits (hreliable : program.Reliable backend constants due fine own)
    {scene : Scene σ} (hscene : fine scene) (workgroup : Coord) (subgroups : Subgroups) :
    ∃ waits, due workgroup subgroups →
      ∀ n, program.Waits backend constants fine workgroup subgroups n → waits = n := by
  by_cases hwaits : ∃ waits, program.Waits backend constants fine workgroup subgroups waits
  · obtain ⟨waits, hwaits⟩ := hwaits
    refine ⟨waits, fun hdue n hn => ?_⟩
    obtain ⟨state, hstart, -, -⟩ := hreliable.start workgroup subgroups scene hdue hscene
    exact (hwaits scene state hscene hstart).unique hscene (hn scene state hscene hstart)
  · exact ⟨0, fun _ n hn => absurd ⟨n, hn⟩ hwaits⟩

/-- **The workgroups of a share take their course**, one after another, if the program begins what
is due for them. -/
theorem Run.Shows.runFrom_lands {context : Context ρ σ}
    (hreliable : program.Reliable backend context.constants due fine own)
    (hshort : context.coroutineCount ≤ Context.maxSubgroups) (thread begun count : Nat) :
    ∀ {run : Run ρ σ} {scene : Scene σ} {history : List Event} (place : Nat) (stats : Stats),
      run.Shows ⟨[], scene, begun + place * context.coroutineCount, history⟩ → fine scene →
      (∀ p, place ≤ p → p < place + count → ∀ i < context.coroutineCount,
        due (context.shareAt thread p) (context.coroutinePart i)) →
      stats.workgroups + count < word → stats.resumptions < word →
      ∃ waits : Nat → Nat → Nat,
        (∀ p, place ≤ p → p < place + count →
          context.Respects program backend fine (context.shareAt thread p) (waits p))
        ∧ let share := Lineup.courseAll stats
            ((List.range' place count).map (context.lineupAt thread begun waits))
          Lands fine (context.runFrom backend program thread stats run place count) share.1
            (begun + (place + count) * context.coroutineCount) (history ++ share.2) := by
  induction count with
  | zero =>
      intro run scene history place stats h hscene _ _ _
      refine ⟨fun _ _ => 0, fun p hle hlt => absurd hlt (Nat.not_lt.mpr hle), rfl,
        h.history.trans (List.append_nil _).symm, fun _ _ => ⟨scene, hscene, ?_⟩⟩
      rw [Nat.add_zero, List.range'_zero, List.map_nil, Lineup.courseAll, List.append_nil]
      exact h
  | succ count ih =>
      intro run scene history place stats h hscene hdue hworkgroups hresumptions
      obtain ⟨first, hfirst, hanswer, hhistory, hsettled⟩ := h.runWorkgroup_lands hscene hreliable
        hshort (context.shareAt thread place) (hdue place (Nat.le_refl _) (by omega)) stats
        (by omega) hresumptions
      rcases hrun : context.runWorkgroup backend program stats run (context.shareAt thread place)
        with ⟨answer, after⟩
      rw [hrun] at hanswer hhistory hsettled
      dsimp only at hanswer hhistory hsettled
      cases answer with
      -- the share ends here, and what later coroutines would do is left open
      | error fault =>
          choose later hlater using fun p i =>
            exists_waits hreliable hscene (context.shareAt thread p) (context.coroutinePart i)
          refine ⟨Context.glue place first later, context.respects_glue thread first later place
            count hfirst fun p hle hlt i hi => hlater p i (hdue p (by omega) (by omega) i hi), ?_⟩
          rw [Context.map_lineupAt_glue, Lineup.courseAll, Context.runFrom, hrun, ← hanswer]
          exact .of_error hhistory
      -- the next place starts where this one has left the queue, which is empty
      | ok next =>
          obtain ⟨hroom, hnext⟩ := Lineup.advance_eq_ok hanswer.symm
          obtain ⟨scene', hscene', hafter⟩ := hsettled next hanswer.symm
          rw [Nat.add_assoc begun, ← Nat.succ_mul] at hafter
          have hworkgroups' : next.workgroups + count < word := by
            rw [hnext]
            dsimp only
            omega
          have hresumptions' : next.resumptions < word := hnext ▸ hroom
          obtain ⟨later, hlater, hrest⟩ := ih (place + 1) next hafter hscene'
            (fun p hle hlt => hdue p (by omega) (by omega)) hworkgroups' hresumptions'
          refine ⟨Context.glue place first later,
            context.respects_glue thread first later place count hfirst hlater, ?_⟩
          rw [Context.map_lineupAt_glue, Lineup.courseAll, Context.runFrom, hrun, ← hanswer]
          dsimp only at hrest ⊢
          rw [List.append_assoc, Nat.add_right_comm place, Nat.add_assoc place] at hrest
          exact hrest

/-! ## A dispatch -/

/-- The workgroup memory of the context can be allocated. -/
def Context.Allocatable (context : Context ρ σ) : Prop :=
  ∃ length block, alignUp context.memorySize memoryAlign = .ok length
    ∧ Block.allocate length memoryAlign = .ok block

theorem Context.Allocatable.memoryFault_eq {context : Context ρ σ} (h : context.Allocatable) :
    memoryFault context.memorySize = none := by
  obtain ⟨length, block, halign, hblock⟩ := h
  rw [Block.allocate_eq] at hblock
  rw [memoryFault, halign]
  dsimp only
  split at hblock
  · next hle => rw [if_pos hle]
  · cases hblock

theorem Context.nodup_lineup (context : Context ρ σ) (begun : Nat) (workgroup : Coord)
    (waits : Nat → Nat) : ((context.lineup begun workgroup waits).map Prod.fst).Nodup := by
  rw [lineup, List.map_map]
  refine List.Nodup.map (fun i j hij => ?_) List.nodup_range
  have hserial := congrArg Ticket.serial hij
  exact Nat.add_left_cancel hserial

/-- What a dispatch does, if the coroutines of its share wait so many times: the coroutine
with index `i` of the workgroup at a place of the share waits `waits place i` times. -/
structure Context.Schedules (context : Context ρ σ) (program : Program ρ σ)
    (backend : Backend ρ σ) (fine : Scene σ → Prop) (thread : Nat) (run : Run ρ σ)
    (waits : Nat → Nat → Nat) : Prop where
  /-- Wherever the program leaves no choice, they are the waits of its coroutines. -/
  respects : ∀ place < context.shareSize thread,
    context.Respects program backend fine (context.shareAt thread place) (waits place)
  /-- The coroutines left behind are destroyed, and then the schedule happens. -/
  counted : context.workFrom thread run.thread.begun waits 0 (context.shareSize thread) < word →
    (context.dispatch backend thread run).1
        = .ok ⟨context.shareSize thread, context.shareSize thread * context.coroutineCount,
            context.workFrom thread run.thread.begun waits 0 (context.shareSize thread)⟩
      ∧ (context.dispatch backend thread run).2.history
        = run.history ++ run.queued.map .destroyed
          ++ context.scheduleFrom thread run.thread.begun waits 0 (context.shareSize thread)
  /-- More resumptions than can be counted are not made, but until then it is the same. -/
  uncounted : word ≤ context.workFrom thread run.thread.begun waits 0 (context.shareSize thread) →
    (context.dispatch backend thread run).1 = .error (.faulted (.arithmetic .add))
      ∧ ∃ events, (context.dispatch backend thread run).2.history
          = run.history ++ run.queued.map .destroyed ++ events
        ∧ CutShort (context.scheduleFrom thread run.thread.begun waits 0
            (context.shareSize thread)) events
  /-- Nobody is resumed once more before everyone still alive has been resumed as often. -/
  fair : ∀ place < context.shareSize thread, ∀ before ticket answer later,
    (context.lineupAt thread run.thread.begun waits place).rounds
      = before ++ .resumed ticket answer :: later →
    ∀ other ∈ (context.lineupAt thread run.thread.begun waits place).map Prod.fst,
      .destroyed other ∉ before → resumptions ticket before ≤ resumptions other before
  /-- Everyone is destroyed before the next workgroup begins. -/
  closed : ∀ place < context.shareSize thread,
    ∀ ticket ∈ (context.lineupAt thread run.thread.begun waits place).map Prod.fst,
      .destroyed ticket ∈ (context.lineupAt thread run.thread.begun waits place).rounds

/-- **The schedule of a dispatch.** On any thread that has come about, whatever is in its
queue and wherever in the ring, a program that does what is asked of it runs its share workgroup
by workgroup, beginning all coroutines of one in order and resuming them in rounds. -/
theorem Context.exists_schedules {context : Context ρ σ} {thread : Nat} {run : Run ρ σ}
    (hcontext : context.Reachable) (hprogram : context.program = some program)
    (hthread : thread < context.threads) (hrun : run.thread.Reachable backend)
    (hmemory : context.Allocatable)
    (hreliable : program.Reliable backend context.constants context.Due fine own)
    (hfine : ∀ ready, (run.discard backend).2.reserveMemory context.memorySize = (.ok (), ready) →
      fine ready.scene) :
    ∃ waits, context.Schedules program backend fine thread run waits := by
  obtain ⟨queue, hshows, -, -⟩ := hrun.shows
  obtain ⟨threads, grid, hprepared⟩ := hcontext.exists_prepared hprogram
  obtain ⟨ready, bytes, hreserve, hready, heq⟩ :=
    hshows.dispatch_of_memory backend hprogram hthread hmemory.memoryFault_eq
  have hscene := hfine ready hreserve
  rw [hready.scene] at hscene
  -- the share begins with an empty queue, and with the history that discarding leaves
  dsimp only at hready hscene
  rw [View.queue_discard, View.begun_discard, hshows.history_discard backend] at hready
  have hcount : Stats.zero.workgroups + context.shareSize thread < word := by
    rw [Stats.zero, Nat.zero_add]
    exact hcontext.shareSize_lt thread
  obtain ⟨waits, hrespects, hanswer, hhistory, -⟩ := Run.Shows.runFrom_lands hreliable
    hcontext.coroutineCount_le thread run.thread.begun (context.shareSize thread) 0 .zero
    (by rwa [Nat.zero_mul, Nat.add_zero]) hscene
    (fun p _ hp i hi => hprepared.due (by omega) hi) hcount (show 0 < word by decide)
  refine ⟨waits, ⟨?_, fun hlt => ?_, fun hle => ?_, ?_, ?_⟩⟩
  · intro place hplace
    exact hrespects place (Nat.zero_le _) (by rwa [Nat.zero_add])
  · rw [context.share_eq_schedule _ _ _ hlt] at hanswer hhistory
    rw [heq]
    rcases hshare : context.runFrom backend program thread .zero ready 0
      (context.shareSize thread) with ⟨answer, after⟩
    rw [hshare] at hanswer hhistory
    dsimp only at hanswer hhistory ⊢
    rw [hanswer]
    exact ⟨rfl, (Run.history_record_other after rfl).trans hhistory⟩
  · obtain ⟨herror, hcut⟩ := context.share_cutShort _ _ _ hle
    rw [herror] at hanswer
    rw [heq]
    rcases hshare : context.runFrom backend program thread .zero ready 0
      (context.shareSize thread) with ⟨answer, after⟩
    rw [hshare] at hanswer hhistory
    dsimp only at hanswer hhistory ⊢
    rw [hanswer]
    exact ⟨rfl, _, hhistory, hcut⟩
  -- what is said of single workgroups holds of any lineup without repetitions
  · intro place _ before ticket answer later hrounds other hother halive
    exact Lineup.resumptions_le (context.nodup_lineup _ _ _) hrounds hother halive
  · intro place _ ticket hticket
    obtain ⟨member, hmember, rfl⟩ := List.mem_map.mp hticket
    exact Lineup.destroyed_mem_rounds hmember

/-! ## Coroutines that wait for a number of barriers -/

/-- What is left of a kernel that waits for so many barriers. -/
def waitFor {σ : Type} : Nat → Scene σ → Task σ Unit
  | 0, scene => .ended () scene
  | left + 1, scene => (Task.await .fresh () scene).andThen fun _ => waitFor left

/-- A kernel with three coroutines to a workgroup, which wait a different number of times each. -/
def tally : KernelProgram Unit where
  info := ⟨20, true, 0, ⟨12, 1, 1⟩⟩
  kernel invocation scene :=
    (⟨some (waitFor ((2 * invocation.subgroups.first + 1) % 4)), id⟩, scene)

/-- It is reliable. Nothing is said of its coroutines once they have ended, as they could not be
resumed any more. -/
theorem reliable_tally (constants : Constants) (due : Coord → Subgroups → Prop) :
    tally.program.Reliable (kernelBackend Unit) constants due (fun _ => True)
      fun future => ∃ left, future = ⟨some (waitFor left), id⟩ := by
  refine ⟨⟨?_⟩, fun _ _ _ _ _ => ⟨_, rfl, ⟨_, rfl⟩, trivial⟩⟩
  rintro state scene ⟨left, rfl⟩ _
  cases left with
  | zero => exact .inr ⟨rfl, trivial⟩
  | succ left => exact .inl ⟨rfl, ⟨left, rfl⟩, trivial⟩

/-- Two workgroups on one thread. -/
def tallyContext : Context (Future Unit) Unit :=
  (Context.initial.prepare 1 tally.program #[] ⟨2, 1, 1⟩).2

/-- A thread that has run its share once runs it again. -/
theorem Context.exists_schedules_tally :
    let backend := kernelBackend Unit
    let run := Operation.performAll backend [.dispatch tallyContext 0] (.fresh ())
    (tallyContext.Reachable ∧ tallyContext.program = some tally.program
      ∧ 0 < tallyContext.threads ∧ run.thread.Reachable backend ∧ tallyContext.Allocatable
      ∧ tally.program.Reliable backend tallyContext.constants tallyContext.Due (fun _ => True)
        fun future => ∃ left, future = ⟨some (waitFor left), id⟩)
    ∧ ∃ waits, tallyContext.Schedules tally.program backend (fun _ => True) 0 run waits := by
  intro backend run
  have hreachable : tallyContext.Reachable := .prepare _ _ _ _ .initial
  have hthread : run.thread.Reachable backend := ⟨(), [.dispatch tallyContext 0], rfl⟩
  have hmemory : tallyContext.Allocatable := ⟨32, ⟨Bytes.zeros 32, 16⟩, rfl, rfl⟩
  have hreliable := reliable_tally tallyContext.constants tallyContext.Due
  exact ⟨⟨hreachable, rfl, by decide, hthread, hmemory, hreliable⟩,
    Context.exists_schedules hreachable rfl (by decide) hthread hmemory hreliable
      fun _ _ => trivial⟩

end GridDispatch
