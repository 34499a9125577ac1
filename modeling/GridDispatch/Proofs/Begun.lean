/-
The coroutines that a dispatch begins.

A dispatch walks through the workgroups of a share and begins for each of them the coroutines
that the context prescribes. Here this is shown of every dispatch, whatever its program and its
coroutines answer and whatever state the thread is in: what is begun is an initial piece of the
plan (`Context.plan`), and the whole plan if the dispatch returns. Neither the queue nor the
memory has a part in it, so runs need not be sound here, and no ring is looked at.

Only one step of a run begins anything (`carriesOut_spawn`); every other step leaves the list of
starts as it is. `CarriesOut` puts the steps together: a plan is carried out to its end, or not at
all because of a fault, or broken off by one, or followed by another plan.
-/
import GridDispatch.Proofs.Partition
import GridDispatch.Schedule.Dispatch
import GridDispatch.Workgroup.Invocation

set_option autoImplicit false

namespace GridDispatch

variable {ρ σ : Type}

/-- A workgroup and the subgroups that one of its coroutines runs. -/
abbrev Start : Type := Coord × Subgroups

/-- What is begun in an event. -/
def Event.start? : Event → Option Start
  | .begun ticket => some (ticket.workgroup, ticket.subgroups)
  | _ => none

/-- The coroutines begun so far, in order. -/
def Run.starts (run : Run ρ σ) : List Start :=
  run.events.toList.filterMap Event.start?

namespace Run

/-! ## Steps that begin nothing -/

theorem starts_record (run : Run ρ σ) (event : Event) :
    (run.record event).starts = run.starts ++ event.start?.toList := by
  rw [starts, record, Array.toList_push, List.filterMap_append, starts]
  cases hstart : event.start? with
  | none => simp [hstart]
  | some start => simp [hstart]

theorem starts_record_other (run : Run ρ σ) {event : Event} (h : event.start? = none) :
    (run.record event).starts = run.starts := by
  rw [starts_record, h]
  exact List.append_nil _

@[simp] theorem starts_act {α : Type} (run : Run ρ σ) (action : Scene σ → α × Scene σ) :
    (run.act action).2.starts = run.starts := rfl

@[simp] theorem starts_withQueue (run : Run ρ σ) (queue : Ring (Coroutine ρ)) :
    (run.withQueue queue).starts = run.starts := rfl

@[simp] theorem starts_destroy (backend : Backend ρ σ) (run : Run ρ σ)
    (coroutine : Coroutine ρ) : (run.destroy backend coroutine).starts = run.starts := by
  rw [destroy, starts_record_other _ rfl, starts_act]

@[simp] theorem starts_enqueue (backend : Backend ρ σ) (run : Run ρ σ)
    (coroutine : Coroutine ρ) : (run.enqueue backend coroutine).2.starts = run.starts := by
  rw [enqueue]
  split
  · exact starts_destroy backend run coroutine
  · next queue growth _ =>
      cases growth with
      | none => exact starts_withQueue run queue
      | some growth => exact (starts_record_other _ rfl).trans (starts_withQueue run queue)

@[simp] theorem starts_resume (backend : Backend ρ σ) (run : Run ρ σ)
    (coroutine : Coroutine ρ) : (run.resume backend coroutine).2.starts = run.starts := by
  rw [resume]
  dsimp only
  split
  · rw [starts_destroy, starts_record_other _ rfl, starts_act]
  · rw [starts_enqueue, starts_record_other _ rfl, starts_act]
  · rw [starts_destroy, starts_record_other _ rfl, starts_act]

/-- Resuming what is queued begins nothing. The recursion is that of the loop. -/
theorem starts_drain (backend : Backend ρ σ) (run : Run ρ σ) (count : Nat) :
    (run.drain backend count).2.starts = run.starts := by
  rw [drain]
  split
  · rfl
  · rfl
  · next coroutine queue _ =>
      by_cases hroom : count + 1 < word
      · have hresume := starts_resume backend (run.withQueue queue) coroutine
        simp only [dif_pos hroom]
        split
        · next hresumed =>
            rw [hresumed] at hresume
            exact hresume
        · next after hresumed =>
            rw [hresumed] at hresume
            exact (starts_drain backend after (count + 1)).trans hresume
      · simp only [dif_neg hroom, starts_destroy, starts_withQueue]
termination_by word - count
decreasing_by omega

theorem starts_discard (backend : Backend ρ σ) (run : Run ρ σ) :
    (run.discard backend).2.starts = run.starts := by
  rw [discard]
  split
  · rfl
  · rfl
  · next coroutine queue _ =>
      rw [starts_discard, starts_destroy, starts_withQueue]
termination_by run.thread.queue.occupied
decreasing_by exact Ring.occupied_pop (by assumption)

theorem starts_reserveMemory (run : Run ρ σ) (size : Nat) :
    (run.reserveMemory size).2.starts = run.starts := by
  rw [reserveMemory]
  split
  · rfl
  · split
    · rfl
    · rfl
    · exact starts_record_other _ rfl

/-! ## Plans -/

/-- Of a plan of starts, a first piece has been carried out, and all of it if the outcome is a
good one. -/
structure CarriesOut {ε α : Type} (plan : List Start) (run : Run ρ σ)
    (outcome : Except ε α × Run ρ σ) : Prop where
  piece : ∃ done, done <+: plan ∧ outcome.2.starts = run.starts ++ done
  whole : ∀ value, outcome.1 = .ok value → outcome.2.starts = run.starts ++ plan

namespace CarriesOut

variable {ε ε' α β : Type} {plan later : List Start} {run mid last : Run ρ σ} {value : α}
  {fault : ε}

/-- All of it was carried out, whatever is answered then. -/
theorem of_whole {outcome : Except ε α × Run ρ σ} (h : outcome.2.starts = run.starts ++ plan) :
    CarriesOut plan run outcome :=
  ⟨⟨plan, List.prefix_rfl, h⟩, fun _ _ => h⟩

/-- Nothing of it was, as there was a fault before. -/
theorem of_nothing (h : last.starts = run.starts) (plan : List Start) (fault : ε) :
    CarriesOut plan run ((.error fault, last) : Except ε α × Run ρ σ) := by
  refine ⟨⟨[], List.nil_prefix, ?_⟩, ?_⟩
  · rw [List.append_nil]
    exact h
  · intro value hvalue
    cases hvalue

/-- After a fault nothing more is carried out, and the fault may be given another name. -/
theorem of_error (h : CarriesOut plan run ((.error fault, last) : Except ε α × Run ρ σ))
    {whole : List Start} (hplan : plan <+: whole) (fault' : ε') :
    CarriesOut whole run ((.error fault', last) : Except ε' β × Run ρ σ) := by
  obtain ⟨done, hpiece, hdone⟩ := h.piece
  refine ⟨⟨done, hpiece.trans hplan, hdone⟩, ?_⟩
  intro value hvalue
  cases hvalue

/-- A plan that was carried out, and then another one. -/
theorem andThen {outcome : Except ε' β × Run ρ σ}
    (h : CarriesOut plan run ((.ok value, mid) : Except ε α × Run ρ σ))
    (hlater : CarriesOut later mid outcome) : CarriesOut (plan ++ later) run outcome := by
  have hmid : mid.starts = run.starts ++ plan := h.whole value rfl
  obtain ⟨done, hpiece, hdone⟩ := hlater.piece
  refine ⟨⟨plan ++ done, (List.prefix_append_right_inj plan).mpr hpiece, ?_⟩, ?_⟩
  · rw [hdone, hmid, List.append_assoc]
  · intro last hlast
    rw [hlater.whole last hlast, hmid, List.append_assoc]

/-- What came before and begins nothing does not matter. -/
theorem of_starts_eq {outcome : Except ε α × Run ρ σ} (h : CarriesOut plan mid outcome)
    (hmid : mid.starts = run.starts) : CarriesOut plan run outcome := by
  obtain ⟨⟨done, hpiece, hdone⟩, hwhole⟩ := h
  rw [hmid] at hdone hwhole
  exact ⟨⟨done, hpiece, hdone⟩, hwhole⟩

end CarriesOut

/-- Beginning a coroutine, which may fault before and after. -/
theorem carriesOut_spawn (backend : Backend ρ σ) (program : Program ρ σ) (constants : Constants)
    (workgroup : Coord) (run : Run ρ σ) (subgroups : Subgroups) :
    CarriesOut [(workgroup, subgroups)] run
      (run.spawn backend program constants workgroup subgroups) := by
  have hacted : (run.act (program.start constants workgroup subgroups)).2.starts = run.starts :=
    starts_act run _
  rw [spawn]
  split
  · next heq =>
      rw [heq] at hacted
      exact .of_nothing hacted _ _
  · next state after heq =>
      rw [heq] at hacted
      have hbegun : (after.record (.begun ⟨after.thread.begun, workgroup, subgroups⟩)).starts
          = run.starts ++ [(workgroup, subgroups)] := by
        rw [starts_record, hacted]
        rfl
      -- the counter of the thread is no part of the history
      exact .of_whole ((starts_enqueue backend _ _).trans hbegun)

theorem carriesOut_spawnFrom (backend : Backend ρ σ) (program : Program ρ σ)
    (constants : Constants) (workgroup : Coord) (part : Nat → Subgroups) (count : Nat) :
    ∀ (run : Run ρ σ) (index : Nat),
      CarriesOut ((List.range' index count).map fun i => (workgroup, part i)) run
        (run.spawnFrom backend program constants workgroup part index count) := by
  induction count with
  | zero => exact fun run _ => .of_whole (List.append_nil run.starts).symm
  | succ count ih =>
      intro run index
      have hfirst := carriesOut_spawn backend program constants workgroup run (part index)
      rw [spawnFrom, List.range'_succ, List.map_cons, ← List.singleton_append]
      split
      · next hspawn =>
          rw [hspawn] at hfirst
          exact hfirst.of_error (List.prefix_append _ _) _
      · next after hspawn =>
          rw [hspawn] at hfirst
          exact hfirst.andThen (ih after (index + 1))

end Run

/-! ## A dispatch -/

namespace Context

/-- What is to be begun for a workgroup. -/
def planOf (context : Context ρ σ) (workgroup : Coord) : List Start :=
  context.coroutineParts.map fun part => (workgroup, part)

/-- What is to be begun for a share. -/
def plan (context : Context ρ σ) (thread : Nat) : List Start :=
  (context.workgroupsFor thread).flatMap context.planOf

theorem planOf_eq (context : Context ρ σ) (workgroup : Coord) :
    context.planOf workgroup = (List.range' 0 context.coroutineCount).map fun i =>
      (workgroup, context.coroutinePart i) := by
  rw [planOf, coroutineParts, List.map_map, List.range_eq_range']
  rfl

theorem carriesOut_runWorkgroup (context : Context ρ σ) (backend : Backend ρ σ)
    (program : Program ρ σ) (stats : Stats) (run : Run ρ σ) (workgroup : Coord) :
    Run.CarriesOut (context.planOf workgroup) run
      (context.runWorkgroup backend program stats run workgroup) := by
  have hspawn := Run.carriesOut_spawnFrom backend program context.constants workgroup
    context.coroutinePart context.coroutineCount run 0
  rw [← planOf_eq] at hspawn
  rw [runWorkgroup]
  split
  · exact .of_nothing rfl _ _
  · split
    · next heq =>
        rw [heq] at hspawn
        exact hspawn.of_error List.prefix_rfl _
    · next spawned heq =>
        rw [heq] at hspawn
        have hspawned : spawned.starts = run.starts ++ context.planOf workgroup :=
          hspawn.whole _ rfl
        have hdrain := Run.starts_drain backend spawned stats.resumptions
        -- all are begun, and what is left of the workgroup begins no more
        split
        · exact .of_whole hspawned
        · split
          · next hdrained =>
              rw [hdrained] at hdrain
              exact .of_whole (hdrain.trans hspawned)
          · next hdrained =>
              rw [hdrained] at hdrain
              exact .of_whole (hdrain.trans hspawned)

theorem carriesOut_runFrom (context : Context ρ σ) (backend : Backend ρ σ)
    (program : Program ρ σ) (thread count : Nat) :
    ∀ (stats : Stats) (run : Run ρ σ) (place : Nat),
      Run.CarriesOut ((List.range' place count).flatMap fun p =>
          context.planOf (context.shareAt thread p)) run
        (context.runFrom backend program thread stats run place count) := by
  induction count with
  | zero => exact fun _ run _ => .of_whole (List.append_nil run.starts).symm
  | succ count ih =>
      intro stats run place
      have hfirst := context.carriesOut_runWorkgroup backend program stats run
        (context.shareAt thread place)
      rw [runFrom, List.range'_succ, List.flatMap_cons]
      split
      · next heq =>
          rw [heq] at hfirst
          exact hfirst.of_error (List.prefix_append _ _) _
      · next stats after heq =>
          rw [heq] at hfirst
          exact hfirst.andThen (ih stats after (place + 1))

theorem plan_eq (context : Context ρ σ) (thread : Nat) :
    context.plan thread = (List.range' 0 (context.shareSize thread)).flatMap fun p =>
      context.planOf (context.shareAt thread p) := by
  rw [plan, workgroupsFor, List.flatMap_map, List.range_eq_range']

/-- **What a dispatch begins** is an initial piece of the plan for its share, and the whole plan
if the dispatch returns. -/
theorem carriesOut_dispatch (context : Context ρ σ) (backend : Backend ρ σ) (thread : Nat)
    (run : Run ρ σ) :
    Run.CarriesOut (context.plan thread) run (context.dispatch backend thread run) := by
  rw [dispatch]
  split
  · exact .of_nothing rfl _ _
  · next program _ =>
      split
      · exact .of_nothing rfl _ _
      · have hdiscard := run.starts_discard backend
        split
        · next heq =>
            rw [heq] at hdiscard
            exact .of_nothing hdiscard _ _
        · next cleared heq =>
            rw [heq] at hdiscard
            have hreserve := cleared.starts_reserveMemory context.memorySize
            split
            · next heq =>
                rw [heq] at hreserve
                exact .of_nothing (hreserve.trans hdiscard) _ _
            · next ready heq =>
                rw [heq] at hreserve
                have hshare := (context.carriesOut_runFrom backend program thread
                  (context.shareSize thread) .zero ready 0).of_starts_eq
                  (hreserve.trans hdiscard)
                rw [← plan_eq] at hshare
                split
                · next heq =>
                    rw [heq] at hshare
                    exact hshare.of_error List.prefix_rfl _
                · next stats last heq =>
                    rw [heq] at hshare
                    exact .of_whole ((last.starts_record_other rfl).trans (hshare.whole stats rfl))

/-! ## The crew of a workgroup -/

/-- What the coroutines know that a dispatch begins for a workgroup, in the order in which they
are begun. -/
def crew (context : Context ρ σ) (backend : Backend ρ σ) (thread : Nat) (run : Run ρ σ)
    (workgroup : Coord) : List Invocation :=
  (((context.dispatch backend thread run).2.starts.drop run.starts.length).filter
    fun start => start.1 = workgroup).map fun start => ⟨context.constants, start.1, start.2⟩

/-- What they know if all of them are begun. -/
def fullCrew (context : Context ρ σ) (workgroup : Coord) : List Invocation :=
  context.coroutineParts.map fun part => ⟨context.constants, workgroup, part⟩

variable {context : Context ρ σ} {backend : Backend ρ σ} {thread : Nat} {run : Run ρ σ}
  {workgroup : Coord}

theorem filter_planOf (context : Context ρ σ) (workgroup other : Coord) :
    (context.planOf other).filter (fun start => start.1 = workgroup)
      = if other = workgroup then context.planOf workgroup else [] := by
  by_cases heq : other = workgroup
  · subst heq
    rw [if_pos rfl]
    apply List.filter_eq_self.mpr
    intro start hstart
    obtain ⟨part, -, rfl⟩ := List.mem_map.mp hstart
    exact decide_eq_true rfl
  · rw [if_neg heq]
    apply List.filter_eq_nil_iff.mpr
    intro start hstart
    obtain ⟨part, -, rfl⟩ := List.mem_map.mp hstart
    simpa using heq

/-- A workgroup that occurs once in a share has one place in the plan. -/
theorem filter_flatMap_planOf (context : Context ρ σ) {list : List Coord} (hnodup : list.Nodup)
    (workgroup : Coord) :
    (list.flatMap context.planOf).filter (fun start => start.1 = workgroup)
      = if workgroup ∈ list then context.planOf workgroup else [] := by
  induction list with
  | nil => simp
  | cons first rest ih =>
      obtain ⟨hout, hrest⟩ := List.nodup_cons.mp hnodup
      rw [List.flatMap_cons, List.filter_append, filter_planOf, ih hrest]
      by_cases heq : first = workgroup
      · subst heq
        rw [if_pos rfl, if_neg hout, if_pos List.mem_cons_self, List.append_nil]
      · have hmem : workgroup ∈ first :: rest ↔ workgroup ∈ rest := by
          rw [List.mem_cons, or_iff_right (Ne.symm heq)]
        rw [if_neg heq, List.nil_append]
        simp only [hmem]

/-- Whatever comes of a dispatch, the crew of a workgroup is an initial piece of the full one, and
only workgroups of the share have a crew. -/
theorem crew_prefix (context : Context ρ σ) (backend : Backend ρ σ) (thread : Nat)
    (run : Run ρ σ) (workgroup : Coord) :
    context.crew backend thread run workgroup
      <+: if workgroup ∈ context.workgroupsFor thread then context.fullCrew workgroup else [] := by
  obtain ⟨done, hpiece, hdone⟩ := (context.carriesOut_dispatch backend thread run).piece
  have hfilter := (hpiece.filter fun start => decide (start.1 = workgroup)).map
    fun start => (⟨context.constants, start.1, start.2⟩ : Invocation)
  rw [plan, filter_flatMap_planOf context (context.nodup_workgroupsFor thread)] at hfilter
  rw [crew, hdone, List.drop_left]
  by_cases hmem : workgroup ∈ context.workgroupsFor thread
  · rw [if_pos hmem, planOf, List.map_map] at hfilter
    rw [if_pos hmem]
    exact hfilter
  · rw [if_neg hmem, List.map_nil] at hfilter
    rw [if_neg hmem]
    exact hfilter

/-- If the dispatch returns, it is the full one. -/
theorem crew_eq_fullCrew {stats : Stats} (h : (context.dispatch backend thread run).1 = .ok stats)
    (hmem : workgroup ∈ context.workgroupsFor thread) :
    context.crew backend thread run workgroup = context.fullCrew workgroup := by
  have hwhole := (context.carriesOut_dispatch backend thread run).whole stats h
  rw [crew, hwhole, List.drop_left, plan,
    filter_flatMap_planOf context (context.nodup_workgroupsFor thread), if_pos hmem, planOf,
    List.map_map]
  rfl

/-- A coroutine that is begun, by any dispatch, belongs to the full crew of its workgroup. -/
theorem mem_fullCrew_of_mem_crew {i : Invocation}
    (h : i ∈ context.crew backend thread run workgroup) :
    workgroup ∈ context.workgroupsFor thread ∧ i ∈ context.fullCrew workgroup := by
  have hsub := (context.crew_prefix backend thread run workgroup).subset h
  by_cases hmem : workgroup ∈ context.workgroupsFor thread
  · rw [if_pos hmem] at hsub
    exact ⟨hmem, hsub⟩
  · rw [if_neg hmem] at hsub
    exact absurd hsub List.not_mem_nil

end Context

end GridDispatch
