/-
The queue of a thread, dispatch after dispatch.

How many slots a queue has is known from the longest it has ever been (`RingCapacity`). Here it is
shown how long it gets in a dispatch: resuming takes a coroutine out before it puts one back, so it
makes no queue longer, and what makes it longer is beginning coroutines, which happens on an empty
queue for every workgroup. So the peak is the number of coroutines of one workgroup, or the peak
that the thread has brought along, and it is reached while the first workgroup is begun.

`Run.Queues` is what a run shows of its queue for this purpose. There is one lemma for each step of
a run, and from them one for each loop. What the steps add to the history is said with them
(`Run.Adds`), since it is the history that tells when a queue was given more slots.
-/
import GridDispatch.Proofs.MemoryEvents
import GridDispatch.Proofs.Pacing
import GridDispatch.Proofs.Recovery
import GridDispatch.Proofs.RingCapacity

set_option autoImplicit false

namespace GridDispatch

variable {ρ σ : Type}

/-- Whether an event is about the slots of a queue. -/
def Event.ofSlots : Event → Bool
  | .queueGrown _ => true
  | _ => false

/-- Whether an event may happen while coroutines are begun and queued. -/
def Event.ofSpawning : Event → Bool
  | .begun _ | .queueGrown _ => true
  | _ => false

namespace Run

/-! ## What is added to a history -/

/-- From one run to the other only such events were added to the history. -/
def Adds (kind : Event → Prop) (run after : Run ρ σ) : Prop :=
  ∃ more, after.log = run.log ++ more ∧ ∀ event ∈ more, kind event

namespace Adds

variable {kind : Event → Prop} {run mid after : Run ρ σ}

theorem of_log_eq (h : after.log = run.log) : Adds kind run after := by
  refine ⟨[], ?_, fun _ hmem => absurd hmem List.not_mem_nil⟩
  rw [h, List.append_nil]

theorem of_concat {event : Event} (h : after.log = run.log ++ [event]) (hkind : kind event) :
    Adds kind run after := by
  refine ⟨[event], h, ?_⟩
  intro other hmem
  rwa [List.mem_singleton.mp hmem]

theorem trans (h : Adds kind run mid) (hnext : Adds kind mid after) : Adds kind run after := by
  obtain ⟨more, hmore, hkind⟩ := h
  obtain ⟨more', hmore', hkind'⟩ := hnext
  refine ⟨more ++ more', ?_, ?_⟩
  · rw [hmore', hmore, List.append_assoc]
  · intro event hmem
    rcases List.mem_append.mp hmem with hmem | hmem
    · exact hkind event hmem
    · exact hkind' event hmem

theorem mono {wider : Event → Prop} (h : Adds kind run after)
    (hwider : ∀ event, kind event → wider event) : Adds wider run after := by
  obtain ⟨more, hmore, hkind⟩ := h
  exact ⟨more, hmore, fun event hmem => hwider event (hkind event hmem)⟩

end Adds

/-- No queue was given more slots. -/
abbrev Ungrown (run after : Run ρ σ) : Prop :=
  Adds (fun event => event.ofSlots = false) run after

theorem log_destroy (backend : Backend ρ σ) (run : Run ρ σ) (coroutine : Coroutine ρ) :
    (run.destroy backend coroutine).log = run.log ++ [.destroyed coroutine.ticket] :=
  log_record _ _

theorem ungrown_destroy (backend : Backend ρ σ) (run : Run ρ σ) (coroutine : Coroutine ρ) :
    run.Ungrown (run.destroy backend coroutine) :=
  .of_concat (log_destroy backend run coroutine) rfl

theorem ungrown_reserveMemory (run : Run ρ σ) (size : Nat) :
    run.Ungrown (run.reserveMemory size).2 := by
  unfold reserveMemory
  split
  · exact .of_log_eq rfl
  · split
    · exact .of_log_eq rfl
    · exact .of_log_eq rfl
    · exact .of_concat (log_record _ _) rfl

theorem queue_reserveMemory (run : Run ρ σ) (size : Nat) :
    (run.reserveMemory size).2.thread.queue = run.thread.queue := by
  unfold reserveMemory
  split
  · rfl
  · split <;> rfl

/-- What resuming comes to, apart from the scene: a note of the answer, on which it depends what
becomes of the coroutine. -/
theorem resume_cases (backend : Backend ρ σ) (run : Run ρ σ) (coroutine : Coroutine ρ) :
    ∃ (acted : Run ρ σ) (answer : Except Fault Progress) (state : ρ),
      acted.thread.queue = run.thread.queue
      ∧ acted.log = run.log ++ [.resumed coroutine.ticket answer]
      ∧ run.resume backend coroutine = match answer with
        | .error fault => (.error fault, acted.destroy backend { coroutine with state })
        | .ok .waiting => acted.enqueue backend { coroutine with state }
        | .ok .ended => (.ok (), acted.destroy backend { coroutine with state }) := by
  refine ⟨(run.act fun scene => (((backend.resume coroutine.state scene).answer,
    (backend.resume coroutine.state scene).state),
    (backend.resume coroutine.state scene).scene)).2.record _, _, _, rfl, ?_, rfl⟩
  exact log_record _ _

/-- What beginning comes to: a fault of the program, or a coroutine to be queued. -/
theorem spawn_cases (backend : Backend ρ σ) (program : Program ρ σ) (constants : Constants)
    (workgroup : Coord) (run : Run ρ σ) (subgroups : Subgroups) :
    (∃ (fault : Fault) (acted : Run ρ σ),
      acted.thread.queue = run.thread.queue ∧ acted.log = run.log
        ∧ run.spawn backend program constants workgroup subgroups = (.error fault, acted))
      ∨ ∃ (ready : Run ρ σ) (coroutine : Coroutine ρ), ready.thread.queue = run.thread.queue
        ∧ ready.log = run.log ++ [.begun coroutine.ticket]
        ∧ run.spawn backend program constants workgroup subgroups
          = ready.enqueue backend coroutine := by
  have hqueue : (run.act (program.start constants workgroup subgroups)).2.thread.queue
      = run.thread.queue := rfl
  have hlog : (run.act (program.start constants workgroup subgroups)).2.log = run.log := rfl
  unfold spawn
  split
  · next fault acted heq =>
      rw [heq] at hqueue hlog
      exact .inl ⟨fault, acted, hqueue, hlog, rfl⟩
  · next state acted heq =>
      rw [heq] at hqueue hlog
      dsimp only at hqueue hlog
      have hnoted := log_record acted (.begun ⟨acted.thread.begun, workgroup, subgroups⟩)
      rw [hlog] at hnoted
      -- the counter of the thread is no part of its queue
      exact .inr ⟨{ acted.record (.begun ⟨acted.thread.begun, workgroup, subgroups⟩) with
        thread := { acted.thread with begun := acted.thread.begun + 1 } },
        ⟨⟨acted.thread.begun, workgroup, subgroups⟩, state⟩, hqueue, hnoted, rfl⟩

/-! ## Queues and their peaks -/

/-- The queue holds these coroutines, and has never been longer than its peak. -/
structure Queues (run : Run ρ σ) (queue : List (Coroutine ρ)) (peak : Nat) : Prop where
  peaks : run.thread.queue.Peaks queue peak
  countable : run.thread.queue.capacity < word

namespace Queues

variable {run : Run ρ σ} {queue : List (Coroutine ρ)} {peak : Nat}

/-- Only the queue has a part in it. -/
theorem congr {other : Run ρ σ} (h : run.Queues queue peak)
    (hqueue : other.thread.queue = run.thread.queue) : other.Queues queue peak := by
  constructor
  · rw [hqueue]
    exact h.peaks
  · rw [hqueue]
    exact h.countable

theorem destroy (h : run.Queues queue peak) (backend : Backend ρ σ) (coroutine : Coroutine ρ) :
    (run.destroy backend coroutine).Queues queue peak :=
  h.congr rfl

/-- Taking the front coroutine, if there is one. -/
theorem pop (h : run.Queues queue peak) :
    ∃ ring, run.thread.queue.pop = .ok (queue.head?, ring)
      ∧ (run.withQueue ring).Queues queue.tail peak := by
  obtain ⟨ring, hpop, hpeaks, hsize⟩ := h.peaks.pop h.countable
  refine ⟨ring, hpop, hpeaks, ?_⟩
  change ring.capacity < word
  rw [hsize]
  exact h.countable

/-- The queue without the coroutine that was taken. -/
theorem of_pop (h : run.Queues queue peak) {found : Option (Coroutine ρ)}
    {ring : Ring (Coroutine ρ)} (hpop : run.thread.queue.pop = .ok (found, ring)) :
    (run.withQueue ring).Queues queue.tail peak := by
  obtain ⟨taken, htake, htaken⟩ := h.pop
  have heq : ring = taken := congrArg Prod.snd (Except.ok.inj (hpop.symm.trans htake))
  rw [heq]
  exact htaken

/-- Below its peak a queue has room. -/
theorem growthOf_eq_none (h : run.Queues queue peak) (hroom : queue.length + 1 ≤ peak) :
    Ring.growthOf run.thread.queue.capacity queue.length = none := by
  have hless : peak < run.thread.queue.capacity := (h.peaks.suits.isLeast (by omega)).1.2
  rw [Ring.growthOf, if_pos (by omega)]

/-- A coroutine is queued, which may take more slots, or is destroyed. -/
theorem enqueue_cases (h : run.Queues queue peak) (backend : Backend ρ σ)
    (coroutine : Coroutine ρ) :
    (∃ after, run.enqueue backend coroutine = (.ok (), after)
        ∧ after.Queues (queue ++ [coroutine]) (max peak (queue.length + 1))
        ∧ Adds (fun event => event.ofSlots = true) run after
        ∧ (queue.length + 1 ≤ peak → after.log = run.log))
      ∨ ∃ fault, run.enqueue backend coroutine = (.error fault, run.destroy backend coroutine) := by
  unfold enqueue
  cases hpush : run.thread.queue.push coroutine with
  | error fault => exact .inr ⟨fault, rfl⟩
  | ok pushed =>
      obtain ⟨ring, growth⟩ := pushed
      obtain ⟨hgrowth, hpeaks, hcap⟩ := h.peaks.push_eq h.countable hpush
      refine .inl ⟨_, rfl, ?_, ?_, ?_⟩
      · cases growth with
        | none => exact ⟨hpeaks, hcap⟩
        | some growth => exact ⟨hpeaks, hcap⟩
      · cases growth with
        | none => exact .of_log_eq rfl
        | some growth => exact .of_concat (log_record _ _) rfl
      · intro hroom
        rw [hgrowth, h.growthOf_eq_none hroom]
        rfl

variable {backend : Backend ρ σ} {program : Program ρ σ} {constants : Constants}
  {workgroup : Coord}

/-! ## Resuming -/

/-- A coroutine that was taken from the queue may be put back, as there is room for it. -/
theorem putBack (h : run.Queues queue peak) (hroom : queue.length + 1 ≤ peak)
    (backend : Backend ρ σ) (coroutine : Coroutine ρ) :
    (∃ later, (run.enqueue backend coroutine).2.Queues later peak)
      ∧ run.Ungrown (run.enqueue backend coroutine).2 := by
  rcases h.enqueue_cases backend coroutine with ⟨after, heq, hafter, -, hlog⟩ | ⟨fault, heq⟩
  · rw [heq]
    rw [Nat.max_eq_left hroom] at hafter
    exact ⟨⟨_, hafter⟩, .of_log_eq (hlog hroom)⟩
  · rw [heq]
    exact ⟨⟨queue, h.destroy backend coroutine⟩, ungrown_destroy backend run coroutine⟩

/-- Resuming makes the queue no longer than it was before the coroutine was taken. -/
theorem resume (h : run.Queues queue peak) (hroom : queue.length + 1 ≤ peak)
    (backend : Backend ρ σ) (coroutine : Coroutine ρ) :
    (∃ later, (run.resume backend coroutine).2.Queues later peak)
      ∧ run.Ungrown (run.resume backend coroutine).2 := by
  obtain ⟨acted, answer, state, hqueue, hlog, heq⟩ := resume_cases backend run coroutine
  have hacted : acted.Queues queue peak := h.congr hqueue
  have hnoted : run.Ungrown acted := .of_concat hlog rfl
  rw [heq]
  split
  · exact ⟨⟨queue, hacted.destroy backend _⟩, hnoted.trans (ungrown_destroy backend _ _)⟩
  · obtain ⟨hlater, hmore⟩ := hacted.putBack hroom backend { coroutine with state }
    exact ⟨hlater, hnoted.trans hmore⟩
  · exact ⟨⟨queue, hacted.destroy backend _⟩, hnoted.trans (ungrown_destroy backend _ _)⟩

end Queues

/-- **Resuming never grows a queue**, whatever the coroutines answer, however often they wait and
in whatever order they end. The recursion is that of the loop. -/
theorem Queues.drain {run : Run ρ σ} {queue : List (Coroutine ρ)} {peak : Nat}
    (h : run.Queues queue peak) (backend : Backend ρ σ) (count : Nat) :
    (∃ later, (run.drain backend count).2.Queues later peak
        ∧ ∀ total, (run.drain backend count).1 = .ok total → later = [])
      ∧ run.Ungrown (run.drain backend count).2 := by
  obtain ⟨ring, hpop, htaken⟩ := h.pop
  rw [Run.drain, hpop]
  cases queue with
  | nil =>
      dsimp only [List.head?_nil]
      exact ⟨⟨[], htaken, fun _ _ => rfl⟩, .of_log_eq rfl⟩
  | cons coroutine rest =>
      dsimp only [List.head?_cons]
      by_cases hroom : count + 1 < word
      · simp only [dif_pos hroom]
        -- the coroutine that was taken has left a place, so the peak stays where it is
        obtain ⟨⟨later, hlater⟩, hadds⟩ :=
          htaken.resume h.peaks.length_le backend coroutine
        split
        · next hresumed =>
            rw [hresumed] at hlater hadds
            exact ⟨⟨later, hlater, nofun⟩, hadds⟩
        · next after hresumed =>
            rw [hresumed] at hlater hadds
            obtain ⟨hdrained, hmore⟩ := hlater.drain backend (count + 1)
            exact ⟨hdrained, hadds.trans hmore⟩
      · simp only [dif_neg hroom]
        exact ⟨⟨rest, htaken.destroy backend coroutine, nofun⟩,
          ungrown_destroy backend _ coroutine⟩
termination_by word - count
decreasing_by omega

namespace Queues

variable {run : Run ρ σ} {queue : List (Coroutine ρ)} {peak : Nat}
  {backend : Backend ρ σ} {program : Program ρ σ} {constants : Constants} {workgroup : Coord}

/-- Nor does giving up what is left over. -/
theorem discard (h : run.Queues queue peak) (backend : Backend ρ σ) :
    (run.discard backend).1 = .ok () ∧ (run.discard backend).2.Queues [] peak
      ∧ run.Ungrown (run.discard backend).2 := by
  induction queue generalizing run with
  | nil =>
      obtain ⟨ring, hpop, htaken⟩ := h.pop
      rw [discard_of_pop_none hpop]
      exact ⟨rfl, htaken, .of_log_eq rfl⟩
  | cons coroutine rest ih =>
      obtain ⟨ring, hpop, htaken⟩ := h.pop
      rw [discard_of_pop_some hpop]
      obtain ⟨hanswer, hafter, hmore⟩ := ih (htaken.destroy backend coroutine)
      exact ⟨hanswer, hafter, (ungrown_destroy backend (run.withQueue ring) coroutine).trans hmore⟩

/-! ## Beginning -/

/-- A coroutine that is begun makes the queue one longer. -/
theorem spawn (h : run.Queues queue peak) {subgroups : Subgroups} {after : Run ρ σ}
    (heq : run.spawn backend program constants workgroup subgroups = (.ok (), after)) :
    ∃ coroutine, after.Queues (queue ++ [coroutine]) (max peak (queue.length + 1))
      ∧ Adds (fun event => event.ofSpawning = true) run after
      ∧ (queue.length + 1 ≤ peak → run.Ungrown after) := by
  rcases spawn_cases backend program constants workgroup run subgroups with
    ⟨fault, acted, -, -, hspawn⟩ | ⟨ready, coroutine, hqueue, hlog, hspawn⟩
  · cases heq.symm.trans hspawn
  rcases (h.congr hqueue).enqueue_cases backend coroutine with
    ⟨last, hlast, hafter, hadds, hsame⟩ | ⟨fault, hfault⟩
  · cases heq.symm.trans (hspawn.trans hlast)
    refine ⟨coroutine, hafter, ?_, fun hroom => ?_⟩
    · have hgrown : Adds (fun event => event.ofSpawning = true) ready after := by
        refine hadds.mono fun event hslots => ?_
        cases event <;> first | rfl | cases hslots
      exact Adds.trans (.of_concat hlog rfl) hgrown
    · exact Adds.trans (.of_concat hlog rfl) (.of_log_eq (hsame hroom))
  · cases heq.symm.trans (hspawn.trans hfault)

/-- Coroutines that are begun one after another. -/
theorem spawnFrom (part : Nat → Subgroups) (count : Nat) :
    ∀ {run after : Run ρ σ} {queue : List (Coroutine ρ)} {peak : Nat} (index : Nat),
      run.Queues queue peak →
      run.spawnFrom backend program constants workgroup part index count = (.ok (), after) →
      (∃ later, after.Queues later (max peak (queue.length + count)))
        ∧ Adds (fun event => event.ofSpawning = true) run after
        ∧ (queue.length + count ≤ peak → run.Ungrown after) := by
  induction count with
  | zero =>
      intro run after queue peak index h heq
      cases heq
      refine ⟨⟨queue, ?_⟩, .of_log_eq rfl, fun _ => .of_log_eq rfl⟩
      rwa [Nat.add_zero, Nat.max_eq_left h.peaks.length_le]
  | succ count ih =>
      intro run after queue peak index h heq
      unfold Run.spawnFrom at heq
      split at heq
      · cases heq
      · next mid hspawn =>
          obtain ⟨coroutine, hmid, hadds, hroom⟩ := h.spawn hspawn
          obtain ⟨⟨later, hlater⟩, hmore, hrest⟩ := ih (index + 1) hmid heq
          rw [List.length_append, List.length_singleton] at hlater hrest
          refine ⟨⟨later, ?_⟩, hadds.trans hmore, fun hle => ?_⟩
          · have hpeak : max (max peak (queue.length + 1)) (queue.length + 1 + count)
                = max peak (queue.length + (count + 1)) := by omega
            rwa [hpeak] at hlater
          · exact (hroom (by omega)).trans (hrest (by omega))

/-! ## A share -/

variable {context : Context ρ σ}

/-- One workgroup, from its first coroutine to its end: the queue has been as long as there are
coroutines, and more slots are given to it only while these are begun. -/
theorem runWorkgroup (h : run.Queues [] peak) {stats : Stats} {after : Run ρ σ} {value : Stats}
    (heq : context.runWorkgroup backend program stats run workgroup = (.ok value, after)) :
    after.Queues [] (max peak context.coroutineCount)
      ∧ ∃ spawned, spawned.starts = run.starts ++ context.planOf workgroup
        ∧ Adds (fun event => event.ofSpawning = true) run spawned ∧ spawned.Ungrown after
        ∧ (context.coroutineCount ≤ peak → run.Ungrown after) := by
  unfold Context.runWorkgroup at heq
  split at heq
  · cases heq
  split at heq
  · cases heq
  next spawned hspawn =>
    obtain ⟨⟨later, hlater⟩, hadds, hroom⟩ := spawnFrom context.coroutinePart _ 0 h hspawn
    rw [List.length_nil, Nat.zero_add] at hlater hroom
    split at heq
    · cases heq
    split at heq
    · cases heq
    next total last hdrain =>
      cases heq
      obtain ⟨⟨rest, hrest, hempty⟩, hmore⟩ := hlater.drain backend stats.resumptions
      rw [hdrain] at hrest hempty hmore
      obtain rfl := hempty total rfl
      -- the answer was good, so all that was planned has been begun
      have hplan := carriesOut_spawnFrom backend program context.constants workgroup
        context.coroutinePart context.coroutineCount run 0
      rw [← Context.planOf_eq, hspawn] at hplan
      exact ⟨hrest, spawned, hplan.whole _ rfl, hadds, hmore, fun hle => (hroom hle).trans hmore⟩

/-- The further workgroups of a share never need more slots. -/
theorem runFrom (thread count : Nat) : ∀ {run after : Run ρ σ} {stats value : Stats} (place : Nat),
    run.Queues [] peak → context.coroutineCount ≤ peak →
    context.runFrom backend program thread stats run place count = (.ok value, after) →
    after.Queues [] peak ∧ run.Ungrown after := by
  induction count with
  | zero =>
      intro run after stats value place h _ heq
      cases heq
      exact ⟨h, .of_log_eq rfl⟩
  | succ count ih =>
      intro run after stats value place h hle heq
      unfold Context.runFrom at heq
      split at heq
      · cases heq
      · next mid hfirst =>
          -- with a peak like that already, this workgroup is like every later one
          obtain ⟨hmid, -, -, -, -, hroom⟩ := h.runWorkgroup hfirst
          rw [Nat.max_eq_left hle] at hmid
          obtain ⟨hafter, hrest⟩ := ih (place + 1) hmid hle heq
          exact ⟨hafter, (hroom hle).trans hrest⟩

/-- A share that is not empty: more slots are given while its first workgroup is begun. -/
theorem runFrom_succ (h : run.Queues [] peak) {after : Run ρ σ} {stats value : Stats}
    {thread place count : Nat}
    (heq : context.runFrom backend program thread stats run place (count + 1)
      = (.ok value, after)) :
    after.Queues [] (max peak context.coroutineCount)
      ∧ ∃ spawned, spawned.starts = run.starts ++ context.planOf (context.shareAt thread place)
        ∧ Adds (fun event => event.ofSpawning = true) run spawned ∧ spawned.Ungrown after := by
  unfold Context.runFrom at heq
  split at heq
  · cases heq
  · next mid hfirst =>
      obtain ⟨hmid, spawned, hstarts, hadds, hmore, -⟩ := h.runWorkgroup hfirst
      obtain ⟨hafter, hrest⟩ :=
        runFrom thread count (place + 1) hmid (Nat.le_max_right _ _) heq
      exact ⟨hafter, spawned, hstarts, hadds, hmore.trans hrest⟩

end Queues

/-! ## Threads that come about -/

/-- Every queue that comes about has a peak. -/
def Peaked (run : Run ρ σ) : Prop :=
  ∃ queue peak, run.Queues queue peak

variable {backend : Backend ρ σ} {program : Program ρ σ} {constants : Constants}

theorem Queues.peaked_enqueue {run : Run ρ σ} {queue : List (Coroutine ρ)} {peak : Nat}
    (h : run.Queues queue peak) (backend : Backend ρ σ) (coroutine : Coroutine ρ) :
    (run.enqueue backend coroutine).2.Peaked := by
  rcases h.enqueue_cases backend coroutine with ⟨after, heq, hafter, -⟩ | ⟨fault, heq⟩
  · rw [heq]
    exact ⟨_, _, hafter⟩
  · rw [heq]
    exact ⟨queue, peak, h.destroy backend coroutine⟩

/-- Each of the four steps keeps to it, whatever is answered. -/
theorem Step.peaked {run after : Run ρ σ} (hstep : Step backend program constants run after)
    (h : run.Peaked) : after.Peaked := by
  obtain ⟨queue, peak, h⟩ := h
  cases hstep with
  | spawn workgroup subgroups =>
      rcases spawn_cases backend program constants workgroup run subgroups with
        ⟨fault, acted, hqueue, -, heq⟩ | ⟨ready, coroutine, hqueue, -, heq⟩
      · rw [heq]
        exact ⟨queue, peak, h.congr hqueue⟩
      · rw [heq]
        exact (h.congr hqueue).peaked_enqueue backend coroutine
  | @resume coroutine ring hpop =>
      obtain ⟨acted, answer, state, hqueue, -, heq⟩ :=
        resume_cases backend (run.withQueue ring) coroutine
      have hacted := (h.of_pop hpop).congr hqueue
      rw [heq]
      split
      · exact ⟨_, _, hacted.destroy backend _⟩
      · exact hacted.peaked_enqueue backend _
      · exact ⟨_, _, hacted.destroy backend _⟩
  | @destroy coroutine ring hpop =>
      exact ⟨_, _, (h.of_pop hpop).destroy backend coroutine⟩
  | @pass ring hpop =>
      exact ⟨_, _, h.of_pop hpop⟩

theorem Peaked.dispatch {run : Run ρ σ} (h : run.Peaked) (backend : Backend ρ σ)
    (context : Context ρ σ) (index : Nat) : (context.dispatch backend index run).2.Peaked := by
  by_cases haccept : context.program.isSome ∧ index < context.threads
  · obtain ⟨program, hprogram⟩ := Option.isSome_iff_exists.mp haccept.1
    obtain ⟨queue, peak, hqueues⟩ := h
    obtain ⟨hanswer, hcleared, -⟩ := hqueues.discard backend
    have hready := hcleared.congr (queue_reserveMemory (run.discard backend).2 context.memorySize)
    obtain ⟨last, hlast, heq⟩ :=
      dispatch_reaches hprogram haccept.2 (Prod.ext hanswer rfl : _ = (_, (run.discard backend).2))
    have hpeaked : last.Peaked :=
      hlast.keeps (fun _ _ hstep hrun => hstep.peaked hrun) ⟨[], peak, hready⟩
    rcases heq with heq | ⟨stats, heq⟩
    · rw [heq]
      exact hpeaked
    · obtain ⟨queue', peak', hqueues'⟩ := hpeaked
      rw [heq]
      exact ⟨queue', peak', hqueues'.congr rfl⟩
  · obtain ⟨refusal, heq⟩ := dispatch_of_refused backend haccept run
    rw [heq]
    exact h

theorem queue_foldl_destroy (backend : Backend ρ σ) (list : List (Coroutine ρ)) :
    ∀ run : Run ρ σ, (list.foldl (Run.destroy backend) run).thread.queue = run.thread.queue := by
  induction list with
  | nil => exact fun _ => rfl
  | cons coroutine rest ih => exact fun run => ih (run.destroy backend coroutine)

/-- Releasing gives up the slots, and the peak with them. -/
theorem peaked_release (backend : Backend ρ σ) (run : Run ρ σ) : (run.release backend).Peaked := by
  have hqueue : (run.release backend).thread.queue = .empty :=
    queue_foldl_destroy backend run.thread.queue.slotOrder (run.withQueue .empty)
  refine ⟨[], 0, ?_, ?_⟩
  · rw [hqueue]
    exact .empty
  · rw [hqueue]
    exact (by decide : 0 < word)

end Run

namespace Operation

theorem peaked_perform {run : Run ρ σ} (h : run.Peaked) (backend : Backend ρ σ)
    (operation : Operation ρ σ) : (operation.perform backend run).Peaked := by
  cases operation with
  | dispatch context index => exact h.dispatch backend context index
  | release => exact Run.peaked_release backend run
  | meanwhile shared =>
      obtain ⟨queue, peak, hqueues⟩ := h
      exact ⟨queue, peak, hqueues.congr rfl⟩

theorem peaked_performAll (backend : Backend ρ σ) (operations : List (Operation ρ σ)) :
    ∀ {run : Run ρ σ}, run.Peaked → (performAll backend operations run).Peaked := by
  induction operations with
  | nil => exact fun h => h
  | cons operation rest ih => exact fun h => ih (peaked_perform h backend operation)

end Operation

theorem Thread.Reachable.peaked {backend : Backend ρ σ} {run : Run ρ σ}
    (h : run.thread.Reachable backend) : run.Peaked := by
  obtain ⟨shared, operations, heq⟩ := h
  have hfresh : (Run.fresh shared : Run ρ σ).Peaked := ⟨[], 0, .empty, (by decide : 0 < word)⟩
  obtain ⟨queue, peak, hqueues⟩ := Operation.peaked_performAll backend operations hfresh
  exact ⟨queue, peak, hqueues.congr (congrArg Thread.queue heq.symm)⟩

/-! ## A dispatch -/

namespace Context

variable {context : Context ρ σ} {backend : Backend ρ σ} {thread : Nat} {run : Run ρ σ}

/-- What a dispatch has done that answers with its work. -/
theorem of_dispatch_eq_ok {stats : Stats}
    (hok : (context.dispatch backend thread run).1 = .ok stats) :
    ∃ program cleared ready last, context.program = some program
      ∧ run.discard backend = (.ok (), cleared)
      ∧ cleared.reserveMemory context.memorySize = (.ok (), ready)
      ∧ context.runFrom backend program thread .zero ready 0 (context.shareSize thread)
        = (.ok stats, last)
      ∧ (context.dispatch backend thread run).2
        = last.record (.shareDone thread context.threads stats) := by
  revert hok
  unfold dispatch
  split
  · intro hok
    cases hok
  next program hprogram =>
    split
    · intro hok
      cases hok
    split
    · intro hok
      cases hok
    next cleared hdiscard =>
      split
      · intro hok
        cases hok
      next ready hreserve =>
        split
        · intro hok
          cases hok
        next value last hshare =>
          intro hok
          cases hok
          exact ⟨program, cleared, ready, last, hprogram, hdiscard, hreserve, hshare, rfl⟩

/-- Nothing happens to the slots before its share, nor after. -/
theorem exists_share {stats : Stats} {queue : List (Coroutine ρ)} {peak : Nat}
    (h : run.Queues queue peak) (hok : (context.dispatch backend thread run).1 = .ok stats) :
    ∃ program ready last, context.program = some program
      ∧ ready.Queues [] peak ∧ run.Ungrown ready
      ∧ context.runFrom backend program thread .zero ready 0 (context.shareSize thread)
        = (.ok stats, last)
      ∧ last.Ungrown (context.dispatch backend thread run).2
      ∧ (context.dispatch backend thread run).2.thread.queue = last.thread.queue := by
  obtain ⟨program, cleared, ready, last, hprogram, hdiscard, hreserve, hshare, hlast⟩ :=
    of_dispatch_eq_ok hok
  obtain ⟨-, hcleared, hungrown⟩ := h.discard backend
  have hmade := Run.ungrown_reserveMemory cleared context.memorySize
  have hsame := Run.queue_reserveMemory cleared context.memorySize
  rw [hdiscard] at hcleared hungrown
  rw [hreserve] at hmade hsame
  refine ⟨program, ready, last, hprogram, hcleared.congr hsame, hungrown.trans hmade, hshare,
    .of_concat (hlast ▸ Run.log_record last _) rfl, ?_⟩
  rw [hlast]
  rfl

theorem workgroupsFor_of_shareSize_eq_succ {count : Nat}
    (hsize : context.shareSize thread = count + 1) :
    ∃ rest, context.workgroupsFor thread = context.shareAt thread 0 :: rest := by
  refine ⟨(List.range' 1 count).map (context.shareAt thread), ?_⟩
  rw [workgroupsFor, hsize, List.range_eq_range', List.range'_succ, List.map_cons]

/-- **Resuming never grows the queue of a thread.** Take a dispatch that answers well, on any
thread that has come about. If its share is empty, the queue keeps its slots. Otherwise its
capacity is the old one, or the least of the form `10 * 2 ^ k` that is greater than the number of
coroutines of one workgroup, whichever is more; nothing else has a part in it. And the queue is
given slots only while the coroutines of the first workgroup are being begun, where nothing else
happens, and neither before nor after. -/
theorem capacity_of_dispatch {stats : Stats} (hcontext : context.Reachable)
    (hrun : run.thread.Reachable backend)
    (hok : (context.dispatch backend thread run).1 = .ok stats) :
    let after := (context.dispatch backend thread run).2
    ∃ before spawning later, after.log = run.log ++ before ++ spawning ++ later
      ∧ (∀ event ∈ before ++ later, event.ofSlots = false)
      ∧ (∀ event ∈ spawning, event.ofSpawning = true)
      ∧ (context.workgroupsFor thread = [] → spawning = []
        ∧ after.thread.queue.capacity = run.thread.queue.capacity)
      ∧ ∀ first rest, context.workgroupsFor thread = first :: rest →
        spawning.filterMap Event.start? = context.planOf first
        ∧ ∃ least, IsLeast {capacity | (∃ k, capacity = 10 * 2 ^ k)
              ∧ (if context.hasBarriers then context.constants.subgroupsPerWorkgroup else 1)
                < capacity} least
          ∧ after.thread.queue.capacity = max run.thread.queue.capacity least := by
  intro after
  obtain ⟨queue, peak, hqueues⟩ := hrun.peaked
  obtain ⟨program, ready, last, hprogram, hready, hungrown, hshare, hnoted, hlast⟩ :=
    exists_share hqueues hok
  obtain ⟨before, hbefore, hother⟩ := hungrown
  have hcapacity : after.thread.queue.capacity = last.thread.queue.capacity :=
    congrArg Ring.capacity hlast
  cases hsize : context.shareSize thread with
  -- no workgroup, so nothing is begun and the queue keeps the peak it came with
  | zero =>
      rw [hsize] at hshare
      cases hshare
      have hempty : context.workgroupsFor thread = [] := by
        rw [workgroupsFor, hsize]
        rfl
      obtain ⟨later, hlater, hothers⟩ := hnoted
      refine ⟨before, [], later, ?_, ?_, fun _ hmem => absurd hmem List.not_mem_nil, ?_, ?_⟩
      · rw [hlater, hbefore, List.append_nil]
      · exact List.forall_mem_append.mpr ⟨hother, hothers⟩
      · intro _
        exact ⟨rfl, hcapacity.trans (hready.peaks.suits.unique hqueues.peaks.suits)⟩
      · intro first rest hfirst
        rw [hempty] at hfirst
        cases hfirst
  -- the first workgroup takes the peak as high as it gets
  | succ count =>
      rw [hsize] at hshare
      obtain ⟨hqueue, spawned, hstarts, hadds, hmore⟩ := hready.runFrom_succ hshare
      obtain ⟨spawning, hspawning, hkinds⟩ := hadds
      obtain ⟨later, hlater, hothers⟩ := hmore.trans hnoted
      obtain ⟨others, hshareAt⟩ := workgroupsFor_of_shareSize_eq_succ hsize
      refine ⟨before, spawning, later, ?_, ?_, hkinds, ?_, ?_⟩
      · rw [hlater, hspawning, hbefore]
      · exact List.forall_mem_append.mpr ⟨hother, hothers⟩
      · intro hempty
        rw [hshareAt] at hempty
        cases hempty
      · intro first rest hfirst
        rw [hshareAt] at hfirst
        obtain ⟨rfl, -⟩ := List.cons.inj hfirst
        refine ⟨?_, ?_⟩
        · -- what is begun in the history of the run is begun here
          change spawned.log.filterMap Event.start?
            = ready.log.filterMap Event.start? ++ _ at hstarts
          rw [hspawning, List.filterMap_append] at hstarts
          exact List.append_cancel_left hstarts
        · have hpos : context.coroutineCount ≠ 0 :=
            Nat.ne_of_gt (hcontext.coroutineCount_pos (hprogram ▸ rfl))
          obtain ⟨least, hleast⟩ := Ring.exists_isLeast_roomy context.coroutineCount
          refine ⟨least, hleast, hcapacity.trans ?_⟩
          exact hqueues.peaks.suits.max_eq (.of_isLeast hpos hleast) hqueue.peaks.suits

/-- A program with fifteen coroutines to a workgroup. -/
def wideProgram : Program Unit Unit where
  info := ⟨20, true, 0, ⟨60, 1, 1⟩⟩
  start _ _ _ scene := (.ok (), scene)

/-- Two workgroups of it on one thread. -/
def wideContext : Context Unit Unit :=
  (initial.prepare 1 wideProgram #[] ⟨2, 1, 1⟩).2

theorem dispatch_wide {run : Run Unit Unit} (hrun : run.thread.Reachable (idle Unit)) :
    (wideContext.dispatch (idle Unit) 0 run).1 = .ok (wideContext.account (fun _ _ => 0) 0) := by
  have hprepare : initial.prepare 1 wideProgram #[] ⟨2, 1, 1⟩ = (.ok [], wideContext) := rfl
  have hprepared := prepared_of_prepare hprepare
  have hmemory : wideContext.Allocatable := ⟨32, ⟨Bytes.zeros 32, 16⟩, rfl, rfl⟩
  have hfine : ∀ scene after : Scene Unit, wideContext.Fine (fun _ => True) scene →
      wideContext.Fine (fun _ => True) (scene.keep after) := by
    intro scene after hscene
    refine ⟨?_, trivial⟩
    rw [Scene.keep, Bytes.size_fit]
    exact hscene.1
  have hpaced : wideContext.Paced wideProgram (idle Unit) (fun _ => True) fun _ _ => 0 := by
    intro workgroup _ part _ scene hscene
    exact ⟨(), rfl, hfine _ _ hscene, fun _ hnext => ⟨rfl, hfine _ _ (hfine _ _ hnext)⟩⟩
  have hturns : turnsOf (fun _ _ => 0) (wideContext.plan 0) < word := by decide +kernel
  obtain ⟨after, heq, -⟩ := hpaced.dispatch_eq hprepared hmemory Nat.zero_lt_one run
    ⟨hrun, fun _ _ _ _ => trivial⟩ trivial hturns
  rw [heq]

/-- A thread on which two of three coroutines are left over, in ten slots, is given slots for
fifteen. -/
theorem capacity_of_dispatch_wide :
    let run := Operation.performAll (idle Unit) [.dispatch (briefContext 2) 0] (.fresh ())
    let after := (wideContext.dispatch (idle Unit) 0 run).2
    (wideContext.Reachable ∧ run.thread.Reachable (idle Unit)
      ∧ (wideContext.dispatch (idle Unit) 0 run).1 = .ok (wideContext.account (fun _ _ => 0) 0))
    ∧ ∃ least, IsLeast {capacity | (∃ k, capacity = 10 * 2 ^ k) ∧ 15 < capacity} least
      ∧ after.thread.queue.capacity = max run.thread.queue.capacity least := by
  intro run after
  have hcontext : wideContext.Reachable := .prepare _ _ _ _ .initial
  have hrun : run.thread.Reachable (idle Unit) := ⟨(), [.dispatch (briefContext 2) 0], rfl⟩
  have hok := dispatch_wide hrun
  obtain ⟨_, _, _, -, -, -, -, hfirst⟩ := capacity_of_dispatch hcontext hrun hok
  exact ⟨⟨hcontext, hrun, hok⟩, (hfirst _ _ rfl).2⟩

end Context

end GridDispatch
