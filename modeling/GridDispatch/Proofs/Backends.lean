/-
Kernels and native programs, scheduled alike.

The two backends have little in common. A kernel's coroutine is a future that is run up to its next
barrier, and a barrier is a future itself, which waits when it is polled for the first time and ends
when it is polled again. A native coroutine is a frame behind an entry point that answers a byte. If
both pause equally often, the scheduler should not see a difference, and that is the theorem of this
file (`KernelProgram.scheduled_as_native`).

Nothing about schedules is proved here. To await a barrier so many times (`Task.Awaits`), and to
answer so many bytes other than zero (`EntryPoints.Yields`), is to keep a pace, and with a pace a
dispatch takes its course. The course depends on the parameters of the program, on the grid and on
the thread, and these are the same on both sides. How a kernel comes to await its barriers is left
open; that it may do so in sequence and in loops is `Task.Awaits.andThen` and
`Kernel.awaits_repeated`.
-/
import GridDispatch.Coroutine.Native
import GridDispatch.Proofs.ContextHistory
import GridDispatch.Proofs.CourseLives
import GridDispatch.Proofs.NativeCalls
import GridDispatch.Session.Kernel.Eval

set_option autoImplicit false

namespace GridDispatch

/-! ## Barriers -/

namespace Barrier

/-- How a barrier answers when it is polled so many times: how it stands, and whether it wakes the
waker. -/
def answers (barrier : Barrier) : Nat → List (Progress × Bool)
  | 0 => []
  | polls + 1 => (barrier.poll.1, barrier.poll.2.1) :: barrier.poll.2.2.answers polls

theorem answers_of_yielded (polls : Nat) :
    answers ⟨true⟩ polls = List.replicate polls (.ended, false) := by
  induction polls with
  | zero => rfl
  | succ polls ih =>
      rw [List.replicate_succ, ← ih]
      rfl

/-- **A barrier waits once**, and wakes the waker once, however often it is polled. -/
theorem answers_fresh (polls : Nat) :
    fresh.answers (polls + 1) = (.waiting, true) :: List.replicate polls (.ended, false) := by
  rw [← answers_of_yielded]
  rfl

end Barrier

/-! ## Kernels that await barriers -/

section

variable {σ : Type} {fine : Scene σ → Prop}

/-- The task awaits a barrier so many times and then returns, in whatever fine scenes it goes on
after a barrier. Whenever it stops, the scene is fine. -/
def Task.Awaits {α : Type} (fine : Scene σ → Prop) : Nat → Task σ α → Prop
  | 0, task => ∃ result scene, task = .ended result scene ∧ fine scene
  | count + 1, task => ∃ scene, ∃ rest : Scene σ → Task σ α,
    task = (Task.await .fresh () scene).andThen (fun _ => rest) ∧ fine scene
      ∧ ∀ later, fine later → Task.Awaits fine count (rest later)

namespace Task.Awaits

variable {α β : Type}

/-- A barrier is awaited once. -/
theorem await (result : α) {scene : Scene σ} (h : fine scene) :
    Task.Awaits fine 1 (Task.await .fresh result scene) :=
  ⟨scene, fun later => .ended result later, rfl, h,
    fun later hlater => ⟨result, later, rfl, hlater⟩⟩

/-- Computations in sequence await as many barriers as both together. -/
theorem andThen {count more : Nat} {task : Task σ α} {next : α → Scene σ → Task σ β}
    (h : task.Awaits fine count)
    (hnext : ∀ result scene, fine scene → (next result scene).Awaits fine more) :
    (task.andThen next).Awaits fine (count + more) := by
  induction count generalizing task with
  | zero =>
      obtain ⟨result, scene, rfl, hscene⟩ := h
      rw [Nat.zero_add]
      exact hnext result scene hscene
  | succ count ih =>
      obtain ⟨scene, rest, rfl, hscene, hrest⟩ := h
      rw [Nat.add_right_comm]
      exact ⟨scene, fun later => (rest later).andThen next, rfl, hscene,
        fun later hlater => ih (hrest later hlater)⟩

end Task.Awaits

/-! ### Blocks of instructions -/

namespace Kernel

variable {fine : Scene World → Prop} {frame : Frame}

theorem awaits_barrier (registers : Registers) {scene : Scene World} (h : fine scene) :
    (exec frame .barrier registers scene).Awaits fine 1 := by
  rw [exec]
  exact .await registers h

theorem awaits_nil (registers : Registers) {scene : Scene World} (h : fine scene) :
    (execAll frame [] registers scene).Awaits fine 0 := by
  rw [execAll]
  exact ⟨registers, scene, rfl, h⟩

/-- Instructions in sequence await as many barriers as all together. -/
theorem awaits_cons {instr : Instr} {rest : List Instr} {count more : Nat} {registers : Registers}
    {scene : Scene World} (h : (exec frame instr registers scene).Awaits fine count)
    (hrest : ∀ registers scene, fine scene →
      (execAll frame rest registers scene).Awaits fine more) :
    (execAll frame (instr :: rest) registers scene).Awaits fine (count + more) := by
  rw [execAll]
  exact h.andThen hrest

/-- A body that is repeated awaits what it does each time. -/
theorem awaits_repeated {body : Nat → Registers → Scene World → Task World Registers} {each : Nat}
    (hbody : ∀ iteration registers scene, fine scene →
      (body iteration registers scene).Awaits fine each) (count : Nat) :
    ∀ (iteration : Nat) (registers : Registers) (scene : Scene World), fine scene →
      (repeated body iteration count registers scene).Awaits fine (count * each) := by
  induction count with
  | zero =>
      intro iteration registers scene hscene
      rw [Nat.zero_mul]
      exact ⟨registers, scene, rfl, hscene⟩
  | succ count ih =>
      intro iteration registers scene hscene
      rw [Nat.succ_mul, Nat.add_comm]
      exact (hbody iteration registers scene hscene).andThen (ih (iteration + 1))

/-- And so does a loop, whose count is found once. -/
theorem awaits_loop {counter : Expr} {body : List Instr} {count each : Nat}
    {registers : Registers} {scene : Scene World} (h : fine scene)
    (hcount : eval frame registers scene counter = .ok count)
    (hbody : ∀ iteration registers scene, fine scene →
      (execAll { frame with iteration } body registers scene).Awaits fine each) :
    (exec frame (.loop counter body) registers scene).Awaits fine (count * each) := by
  rw [exec, hcount]
  exact awaits_repeated hbody count 0 registers scene h

end Kernel

/-- What awaits so many barriers keeps the pace. -/
theorem Future.paces {waits : Nat} {rest : Scene σ → Task σ Unit} {guard : Scene σ → Scene σ}
    (hkeep : ∀ before after : Scene σ, fine before → fine after → fine (before.keep after))
    (hguard : ∀ scene, fine scene → fine (guard scene))
    (h : ∀ scene, fine scene → (rest scene).Awaits fine waits) :
    (kernelBackend σ).Paces fine waits ⟨some rest, guard⟩ := by
  induction waits generalizing rest with
  | zero =>
      intro scene hscene
      obtain ⟨result, after, heq, hafter⟩ := h scene hscene
      have hresume : (kernelBackend σ).resume ⟨some rest, guard⟩ scene
          = ⟨.ok .ended, ⟨none, guard⟩, guard after⟩ := by
        simp only [kernelBackend, Future.resume, heq]
      have hkept := hkeep scene _ hscene (hguard after hafter)
      rw [hresume]
      exact ⟨rfl, hkeep _ _ hkept hkept⟩
  | succ waits ih =>
      intro scene hscene
      obtain ⟨after, next, heq, hafter, hnext⟩ := h scene hscene
      have hresume : (kernelBackend σ).resume ⟨some rest, guard⟩ scene
          = ⟨.ok .waiting, ⟨some next, guard⟩, after⟩ := by
        simp only [kernelBackend, Future.resume, heq]
        rfl
      rw [hresume]
      exact ⟨rfl, hkeep _ _ hscene hafter, ih hnext⟩

end

/-- The kernel of a program awaits a barrier so many times for the subgroups of a workgroup, and
then returns. -/
def KernelProgram.Awaits {σ : Type} (k : KernelProgram σ) (context : Context (Future σ) σ)
    (good : σ → Prop) (waits : Coord → Subgroups → Nat) : Prop :=
  ∀ workgroup part, context.Due workgroup part → ∀ scene, context.Fine good scene →
    let begun := k.kernel ⟨context.constants, workgroup, part⟩ scene
    context.Fine good begun.2
    ∧ (∀ later, context.Fine good later → context.Fine good (begun.1.guard later))
    ∧ ∃ rest, begun.1.rest = some rest ∧ ∀ later, context.Fine good later →
      (rest later).Awaits (context.Fine good) (waits workgroup part)

/-- A program given by a block, whose barriers are counted. The program notes more than the block
does, which must be good. -/
theorem KernelProgram.Awaits.ofBlock {info : ProgramInfo} {block : List Instr}
    {bindings : Array (Option Resource)} {context : Context (Future World) World}
    {good : World → Prop} {waits : Coord → Subgroups → Nat}
    (hnote : ∀ world note, good world → good (world.note note))
    (h : ∀ workgroup part, context.Due workgroup part → ∀ registers scene,
      context.Fine good scene →
      (Kernel.execAll ⟨⟨context.constants, workgroup, part⟩, bindings, default, 0⟩ block registers
        scene).Awaits (context.Fine good) (waits workgroup part)) :
    Awaits ⟨info, Kernel.ofBlock block bindings⟩ context good waits := by
  intro workgroup part hdue scene hscene
  have hfine : ∀ (frame : Frame) (body : NoteBody) (scene : Scene World),
      context.Fine good scene → context.Fine good (Kernel.note frame scene body) :=
    fun _ _ _ hfine => ⟨hfine.1, hnote _ _ hfine.2⟩
  have hend : ∀ (_ : Registers) (scene : Scene World), context.Fine good scene →
      (Task.ended () scene).Awaits (context.Fine good) 0 :=
    fun _ scene hscene => ⟨(), scene, rfl, hscene⟩
  refine ⟨hfine _ _ _ hscene, hfine _ _, _, rfl, fun later hlater => ?_⟩
  exact (h workgroup part hdue _ later hlater).andThen hend

/-! ## Native programs that yield -/

section

variable {φ τ : Type} {fine : Scene τ → Prop} {entry : EntryPoints φ τ}

/-- The entry point answers bytes other than zero so many times and then zero, in whatever fine
scenes it is called. Whenever it answers, the scene is fine, and so it is when the frame is
destroyed in the end. -/
def EntryPoints.Yields (entry : EntryPoints φ τ) (fine : Scene τ → Prop) : Nat → φ → Prop
  | 0, frame => ∀ scene, fine scene →
    let answered := entry.await frame scene
    answered.1 = 0 ∧ fine answered.2.2
      ∧ ∀ later, fine later → fine (entry.destroy answered.2.1 later)
  | count + 1, frame => ∀ scene, fine scene →
    let answered := entry.await frame scene
    answered.1 ≠ 0 ∧ fine answered.2.2 ∧ entry.Yields fine count answered.2.1

/-- What yields so many times keeps the pace. -/
theorem EntryPoints.Yields.paces {waits : Nat} {frame : φ}
    (hkeep : ∀ before after : Scene τ, fine before → fine after → fine (before.keep after))
    (h : entry.Yields fine waits frame) : entry.backend.Paces fine waits ⟨frame, false⟩ := by
  induction waits generalizing frame with
  | zero =>
      intro scene hscene
      obtain ⟨hbyte, hafter, hdestroy⟩ := h scene hscene
      have hresume : entry.backend.resume ⟨frame, false⟩ scene
          = ⟨.ok .ended, ⟨(entry.await frame scene).2.1, true⟩, (entry.await frame scene).2.2⟩ := by
        simp only [backend, resume, hbyte, if_true, Bool.false_eq_true, if_false]
      have hkept := hkeep scene _ hscene hafter
      rw [hresume]
      exact ⟨rfl, hkeep _ _ hkept (hdestroy _ hkept)⟩
  | succ waits ih =>
      intro scene hscene
      obtain ⟨hbyte, hafter, hnext⟩ := h scene hscene
      have hresume : entry.backend.resume ⟨frame, false⟩ scene
          = ⟨.ok .waiting, ⟨(entry.await frame scene).2.1, false⟩,
            (entry.await frame scene).2.2⟩ := by
        simp only [backend, resume, hbyte, Bool.false_eq_true, if_false]
      rw [hresume]
      exact ⟨rfl, hkeep _ _ hscene hafter, ih hnext⟩

end

/-- The entry points of a program yield so many times for the subgroups of a workgroup. -/
def NativeProgram.Yields {φ τ : Type} (n : NativeProgram φ τ)
    (context : Context (NativeRoutine φ) τ) (good : τ → Prop)
    (waits : Coord → Subgroups → Nat) : Prop :=
  ∀ workgroup part, context.Due workgroup part → ∀ scene, context.Fine good scene →
    let begun := n.entry.begin context.constants (.of workgroup part) scene
    context.Fine good begun.2
    ∧ n.entry.Yields (context.Fine good) (waits workgroup part) begun.1

/-! ## Both keep the pace -/

namespace Context

/-- What an action leaves is fine, as the memory keeps its length. -/
theorem Fine.keep {ρ σ : Type} {context : Context ρ σ} {good : σ → Prop} {before after : Scene σ}
    (hbefore : context.Fine good before) (hafter : context.Fine good after) :
    context.Fine good (before.keep after) := by
  refine ⟨?_, hafter.2⟩
  rw [Scene.keep, Bytes.size_fit]
  exact hbefore.1

end Context

theorem KernelProgram.Awaits.paced {σ : Type} {k : KernelProgram σ}
    {context : Context (Future σ) σ} {good : σ → Prop} {waits : Coord → Subgroups → Nat}
    (h : k.Awaits context good waits) : context.Paced k.program (kernelBackend σ) good waits := by
  intro workgroup hinside part hpart scene hscene
  obtain ⟨hbegun, hguard, rest, hrest, hawaits⟩ := h workgroup part ⟨hinside, hpart⟩ scene hscene
  refine ⟨_, rfl, hscene.keep hbegun, ?_⟩
  have hpaces := Future.paces (fun _ _ => Context.Fine.keep) hguard hawaits
  rw [← hrest] at hpaces
  exact hpaces

theorem NativeProgram.Yields.paced {φ τ : Type} {n : NativeProgram φ τ}
    {context : Context (NativeRoutine φ) τ} {good : τ → Prop} {waits : Coord → Subgroups → Nat}
    (h : n.Yields context good waits) : context.Paced n.program n.entry.backend good waits := by
  intro workgroup hinside part hpart scene hscene
  obtain ⟨hbegun, hyields⟩ := h workgroup part ⟨hinside, hpart⟩ scene hscene
  exact ⟨_, rfl, hscene.keep hbegun, hyields.paces fun _ _ => Context.Fine.keep⟩

/-! ## Both are scheduled alike -/

section

variable {ρ σ ρ' σ' : Type}

/-- The thread has destroyed what was left behind on it, and then this has happened, its coroutines
being counted on from those it had begun before. -/
def Run.Continues (run after : Run ρ σ) (events : List Event) : Prop :=
  after.history
    = run.history ++ run.queued.map .destroyed ++ events.map (Event.shift run.thread.begun)

/-- Two dispatches of the share of a thread of so many, whose coroutines are to wait so many times,
are the same to the scheduler. -/
structure ScheduledAlike (waits : Coord → Subgroups → Nat) (threads thread : Nat)
    (run : Run ρ σ) (outcome : Except Failure Stats × Run ρ σ)
    (run' : Run ρ' σ') (outcome' : Except Failure Stats × Run ρ' σ') : Prop where
  /-- They have done the same work, or failed in the same way. -/
  answer_eq : outcome.1 = outcome'.1
  refused : threads ≤ thread → outcome.2 = run ∧ outcome'.2 = run'
  /-- The same coroutines were begun, resumed with the same answers, and destroyed, in the same
  order. Whoever was begun waits as often as it should, ends, and is destroyed, and nothing else
  happens to it; after a failure some have not come so far. -/
  accepted : thread < threads → ∃ events, run.Continues outcome.2 events
    ∧ run'.Continues outcome'.2 events
    ∧ ∀ ticket, .begun ticket ∈ events →
      ticket.Finishes (waits ticket.workgroup ticket.subgroups) events
        ∨ (∀ stats, outcome.1 ≠ .ok stats)
          ∧ ticket.Stops (waits ticket.workgroup ticket.subgroups) events
  /-- On threads with the same past, the histories are the same altogether. -/
  history_eq : run.history = run'.history → run.queued = run'.queued →
    run.thread.begun = run'.thread.begun → outcome.2.history = outcome'.2.history

namespace Context

variable {context : Context ρ σ} {other : Context ρ' σ'} {program : Program ρ σ}
  {program' : Program ρ' σ'} {backend : Backend ρ σ} {backend' : Backend ρ' σ'} {good : σ → Prop}
  {good' : σ' → Prop} {waits : Coord → Subgroups → Nat} {threads : Nat} {grid : Coord}

/-- A thread that the dispatch is not split over runs nothing. -/
theorem Prepared.dispatch_of_le (h : context.Prepared threads program grid)
    (backend : Backend ρ σ) {thread : Nat} (hle : threads ≤ thread) (run : Run ρ σ) :
    context.dispatch backend thread run
      = (.error (.refused (.threadIndex thread threads)), run) := by
  rw [← h.threads_eq] at hle ⊢
  rw [dispatch, h.program_eq]
  exact if_pos hle

/-- Programs with the same parameters that keep the same pace are scheduled alike. -/
theorem Paced.scheduledAlike (hpaced : context.Paced program backend good waits)
    (hpaced' : other.Paced program' backend' good' waits)
    (h : context.Prepared threads program grid) (h' : other.Prepared threads program' grid)
    (hinfo : program.info = program'.info) (hmemory : context.memorySize = other.memorySize)
    (thread : Nat) {run : Run ρ σ} (hready : run.thread.Ready backend good)
    (hgood : good run.shared) {run' : Run ρ' σ'} (hready' : run'.thread.Ready backend' good')
    (hgood' : good' run'.shared) :
    ScheduledAlike waits threads thread run (context.dispatch backend thread run)
      run' (other.dispatch backend' thread run') := by
  by_cases hthread : thread < threads
  · obtain ⟨hanswer, hhistory⟩ := hpaced.dispatch_course h hthread run hready hgood
    obtain ⟨hanswer', hhistory'⟩ := hpaced'.dispatch_course h' hthread run' hready' hgood'
    have hcourse := Prepared.course_eq waits thread 0 h h' hinfo hmemory
    rw [course_eq_shift] at hanswer hhistory
    rw [course_eq_shift, ← hcourse] at hanswer' hhistory'
    refine ⟨hanswer.trans hanswer'.symm, fun hle => absurd hthread (Nat.not_lt.mpr hle),
      fun _ => ⟨_, hhistory, hhistory', fun ticket hticket => ?_⟩, fun hpast hqueued hbegun => ?_⟩
    · rw [hanswer]
      exact context.lived_of_mem_course waits thread 0 hticket
    · rw [hhistory, hhistory', hpast, hqueued, hbegun]
  · rw [h.dispatch_of_le backend (Nat.not_lt.mp hthread),
      h'.dispatch_of_le backend' (Nat.not_lt.mp hthread)]
    exact ⟨rfl, fun _ => ⟨rfl, rfl⟩, fun hlt => absurd hlt hthread, fun hpast _ _ => hpast⟩

end Context

end

/-- **Kernels and native programs are scheduled alike.** A kernel that awaits a barrier so many
times for the subgroups of a workgroup, and entry points that answer so many bytes other than zero
and then zero, are begun, resumed and destroyed in the same order on every thread of a dispatch, and
the work done is the same, if the programs have the same parameters and both contexts were last
prepared for as many threads and the same grid. A barrier waits once and wakes the waker once. -/
theorem KernelProgram.scheduled_as_native {σ φ τ : Type} (k : KernelProgram σ)
    (n : NativeProgram φ τ) (hinfo : k.info = n.info) (waits : Coord → Subgroups → Nat)
    {requests : List (Context.Request (Future σ) σ)}
    {requests' : List (Context.Request (NativeRoutine φ) τ)}
    {last : Preparation (Future σ) σ} {earlier : List (Preparation (Future σ) σ)}
    {last' : Preparation (NativeRoutine φ) τ} {earlier' : List (Preparation (NativeRoutine φ) τ)}
    (hdone : (Ledger.performAll requests).done = last :: earlier)
    (hdone' : (Ledger.performAll requests').done = last' :: earlier')
    (hprogram : last.program = k.program) (hprogram' : last'.program = n.program)
    (hthreads : last.threads = last'.threads) (hgrid : last.grid = last'.grid)
    {good : σ → Prop} {good' : τ → Prop}
    (hawaits : k.Awaits (Ledger.performAll requests).context good waits)
    (hyields : n.Yields (Ledger.performAll requests').context good' waits) (thread : Nat)
    {run : Run (Future σ) σ} (hready : run.thread.Ready (kernelBackend σ) good)
    (hgood : good run.shared) {run' : Run (NativeRoutine φ) τ}
    (hready' : run'.thread.Ready n.entry.backend good') (hgood' : good' run'.shared) :
    ScheduledAlike waits last.threads thread
      run ((Ledger.performAll requests).context.dispatch (kernelBackend σ) thread run)
      run' ((Ledger.performAll requests').context.dispatch n.entry.backend thread run')
    ∧ ∀ polls, Barrier.fresh.answers (polls + 1)
        = (.waiting, true) :: List.replicate polls (.ended, false) := by
  have hgoverned := (Ledger.faithful_performAll requests).governed last earlier hdone
  have hgoverned' := (Ledger.faithful_performAll requests').governed last' earlier' hdone'
  have hmemory : (Ledger.performAll requests).context.memorySize
      = (Ledger.performAll requests').context.memorySize := by
    rw [hgoverned.memorySize_eq, hgoverned'.memorySize_eq, hprogram, hprogram']
    exact congrArg ProgramInfo.minMemorySize hinfo
  have hprepared := hgoverned.toPrepared
  have hprepared' := hgoverned'.toPrepared
  rw [hprogram] at hprepared
  rw [hprogram', ← hthreads, ← hgrid] at hprepared'
  exact ⟨hawaits.paced.scheduledAlike hyields.paced hprepared hprepared' hinfo hmemory thread
    hready hgood hready' hgood', Barrier.answers_fresh⟩

/-! ## Staggered coroutines -/

/-- A barrier, and then one for every workgroup and for every subgroup before. -/
def staggeredBlock : List Instr :=
  [.barrier, .loop (.quantity .workgroupX) [.barrier], .loop (.quantity .firstSubgroup) [.barrier]]

/-- A program of it, with two subgroups to a workgroup and a coroutine for each. -/
def staggeredKernel : KernelProgram World :=
  ⟨⟨20, true, 0, ⟨8, 1, 1⟩⟩, Kernel.ofBlock staggeredBlock #[]⟩

/-- Entry points of coroutines that wait as often, which answer bytes of two kinds meanwhile. -/
def staggeredEntry : EntryPoints Nat Unit where
  begin _ call scene := ((1 + call.x + call.firstSubgroup).toNat, scene)
  await
    | 0, scene => (0, 0, scene)
    | left + 1, scene => (if left % 2 = 0 then 255 else 2, left, scene)
  destroy _ scene := scene

def staggeredNative : NativeProgram Nat Unit :=
  ⟨⟨20, true, 0, ⟨8, 1, 1⟩⟩, staggeredEntry⟩

def staggeredWaits (workgroup : Coord) (subgroups : Subgroups) : Nat :=
  1 + (workgroup.x + subgroups.first)

theorem awaits_staggered (context : Context (Future World) World) :
    staggeredKernel.Awaits context (fun _ => True) staggeredWaits := by
  refine .ofBlock (fun _ _ _ => trivial) fun workgroup part _ registers scene hscene => ?_
  have hbody : ∀ (frame : Frame) (iteration : Nat) (registers : Registers) (scene : Scene World),
      context.Fine (fun _ => True) scene →
      (Kernel.execAll { frame with iteration } [.barrier] registers scene).Awaits
        (context.Fine fun _ => True) 1 :=
    fun _ _ registers _ h => Kernel.awaits_cons (Kernel.awaits_barrier registers h)
      fun registers _ => Kernel.awaits_nil registers
  have hwaits : staggeredWaits workgroup part = 1 + (workgroup.x * 1 + (part.first * 1 + 0)) := by
    rw [staggeredWaits, Nat.mul_one, Nat.mul_one, Nat.add_zero]
  rw [hwaits]
  refine Kernel.awaits_cons (Kernel.awaits_barrier registers hscene) fun registers scene h => ?_
  refine Kernel.awaits_cons (Kernel.awaits_loop h rfl (hbody _)) fun registers scene h => ?_
  exact Kernel.awaits_cons (Kernel.awaits_loop h rfl (hbody _))
    fun registers _ => Kernel.awaits_nil registers

theorem yields_staggered (fine : Scene Unit → Prop) (waits : Nat) :
    staggeredEntry.Yields fine waits waits := by
  induction waits with
  | zero => exact fun scene hscene => ⟨rfl, hscene, fun _ hlater => hlater⟩
  | succ waits ih =>
      refine fun scene hscene => ⟨?_, hscene, ih⟩
      change (if waits % 2 = 0 then (255 : UInt8) else 2) ≠ 0
      split
      · decide
      · decide

/-- Three workgroups of the kernel on two threads. -/
def kernelPreparation : Preparation (Future World) World :=
  ⟨2, staggeredKernel.program, #[], ⟨3, 1, 1⟩⟩

/-- And of the native program. -/
def nativePreparation : Preparation (NativeRoutine Nat) Unit :=
  ⟨2, staggeredNative.program, #[1, 2, 3], ⟨3, 1, 1⟩⟩

theorem yields_staggeredNative :
    staggeredNative.Yields (Ledger.performAll [.prepare nativePreparation]).context
      (fun _ => True) staggeredWaits := by
  intro workgroup part ⟨hinside, hpart⟩ scene hscene
  have hparts : ∀ part ∈ (Ledger.performAll [.prepare nativePreparation]).context.coroutineParts,
      part.first ≤ signedMax := by
    decide
  have hx : workgroup.x < 3 := hinside.1
  have hframe : (1 + signed workgroup.x + signed part.first).toNat
      = staggeredWaits workgroup part := by
    rw [signed_eq (hparts part hpart), signed_eq (Nat.le_trans (Nat.le_of_lt hx) (by decide)),
      staggeredWaits]
    omega
  refine ⟨hscene, ?_⟩
  change staggeredEntry.Yields _ _ (1 + signed workgroup.x + signed part.first).toNat
  rw [hframe]
  exact yields_staggered _ _

/-- The second thread runs one of the workgroups, once it has run it natively before. -/
theorem KernelProgram.scheduled_as_native_staggered :
    let requests := [Context.Request.prepare kernelPreparation]
    let requests' := [Context.Request.prepare nativePreparation]
    let context := (Ledger.performAll requests).context
    let context' := (Ledger.performAll requests').context
    let run : Run (Future World) World := .fresh ⟨#[], #[], #[]⟩
    let run' := Operation.performAll staggeredEntry.backend [.dispatch context' 1] (.fresh ())
    (staggeredKernel.info = staggeredNative.info
      ∧ (Ledger.performAll requests).done = [kernelPreparation]
      ∧ (Ledger.performAll requests').done = [nativePreparation]
      ∧ kernelPreparation.program = staggeredKernel.program
      ∧ nativePreparation.program = staggeredNative.program
      ∧ kernelPreparation.threads = nativePreparation.threads
      ∧ kernelPreparation.grid = nativePreparation.grid
      ∧ staggeredKernel.Awaits context (fun _ => True) staggeredWaits
      ∧ staggeredNative.Yields context' (fun _ => True) staggeredWaits
      ∧ run.thread.Ready (kernelBackend World) (fun _ => True)
      ∧ run'.thread.Ready staggeredEntry.backend (fun _ => True))
    ∧ ScheduledAlike staggeredWaits 2 1
        run (context.dispatch (kernelBackend World) 1 run)
        run' (context'.dispatch staggeredEntry.backend 1 run')
    ∧ (context'.dispatch staggeredEntry.backend 1 run').1 = .ok ⟨1, 2, 7⟩ := by
  intro requests requests' context context' run run'
  have hinfo : staggeredKernel.info = staggeredNative.info := rfl
  have hdone : (Ledger.performAll requests).done = [kernelPreparation] := rfl
  have hdone' : (Ledger.performAll requests').done = [nativePreparation] := rfl
  have hawaits := awaits_staggered context
  have hready : run.thread.Ready (kernelBackend World) fun _ => True :=
    ⟨⟨⟨#[], #[], #[]⟩, [], rfl⟩, fun _ _ _ _ => trivial⟩
  have hready' : run'.thread.Ready staggeredEntry.backend fun _ => True :=
    ⟨⟨(), [.dispatch context' 1], rfl⟩, fun _ _ _ _ => trivial⟩
  refine ⟨⟨hinfo, hdone, hdone', rfl, rfl, rfl, rfl, hawaits, yields_staggeredNative, hready,
    hready'⟩, ?_, ?_⟩
  · exact (scheduled_as_native staggeredKernel staggeredNative hinfo staggeredWaits hdone hdone' rfl
      rfl rfl rfl hawaits yields_staggeredNative 1 hready trivial hready' trivial).1
  · decide +kernel

end GridDispatch
