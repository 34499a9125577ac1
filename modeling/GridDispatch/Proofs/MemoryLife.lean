/-
The workgroup memory over the life of a thread.

How long the memory of a thread is depends on its history only through the dispatches since it was
last released: it is as long as the most demanding of those that were accepted and whose memory
could be had (`Operation.demands`). What is in it is a different question, since any coroutine may
write to it. What can be said is who finds what. So programs and coroutines are made to note, each
time they act, the memory they found and the memory they left (`noting`). Notes make no difference
to anything else, which is an instance of `Lockstep`, and in what is noted each one finds what the
one before has left (`Access.Chain`).

Within a dispatch the notes fall into two pieces. The first is about what was left over from before
and is destroyed in the memory as it is. Then the memory is made long enough, which either leaves it
alone or replaces it by zeros, and the second piece is the share, from the first coroutine of its
first workgroup to the last one of its last.
-/
import GridDispatch.Proofs.Lockstep
import GridDispatch.Proofs.Recovery
import GridDispatch.Proofs.Rounding

set_option autoImplicit false

namespace GridDispatch

variable {ρ σ : Type}

/-! ## Demands -/

/-- Which sizes of workgroup memory can be had. -/
theorem memoryFault_eq_none_iff {size : Nat} : memoryFault size = none
    ↔ size + memoryAlign < word ∧ roundUp size memoryAlign ≤ maxMemory := by
  have hpower : isPowerOfTwo memoryAlign = true := by decide
  constructor
  · intro h
    obtain ⟨length, halign, hle⟩ := memoryFault_eq_none h
    obtain ⟨-, hfits, rfl⟩ := alignUp_eq_ok_iff.mp halign
    exact ⟨hfits, hle⟩
  · rintro ⟨hfits, hle⟩
    rw [memoryFault, alignUp_eq_ok_iff.mpr ⟨hpower, hfits, rfl⟩]
    exact if_pos hle

/-- The length that a dispatch on a thread asks of its memory, if it is accepted and the length can
be had. -/
def Context.demand? (context : Context ρ σ) (index : Nat) : Option Nat :=
  if context.program.isSome ∧ index < context.threads
      ∧ context.memorySize + memoryAlign < word
      ∧ roundUp context.memorySize memoryAlign ≤ maxMemory then
    some (roundUp context.memorySize memoryAlign)
  else
    none

namespace Operation

/-- The demands on a thread after one more operation. Releasing forgets them. -/
def demandsAfter (demands : List Nat) : Operation ρ σ → List Nat
  | .dispatch context index => demands ++ (context.demand? index).toList
  | .release => []
  | .meanwhile _ => demands

/-- The demands since the thread was last released. -/
def demands (operations : List (Operation ρ σ)) : List Nat :=
  operations.foldl demandsAfter []

/-- The most demanding one, or zero. -/
def longest (demands : List Nat) : Nat :=
  demands.foldl max 0

end Operation

namespace Run

/-- What reserving memory comes to. -/
theorem reserveMemory_eq {run : Run ρ σ} (hsound : run.thread.memory.Sound) (size : Nat) :
    run.reserveMemory size = match memoryFault size with
      | some fault => (.error fault, run)
      | none =>
        if roundUp size memoryAlign ≤ run.thread.memory.size then (.ok (), run)
        else (.ok (), { run with thread := { run.thread with
          memory := ⟨Bytes.zeros (roundUp size memoryAlign), memoryAlign⟩ } }.record
            (.memoryGrown (roundUp size memoryAlign))) := by
  have hlong := hsound.size_le
  unfold memoryFault reserveMemory
  cases halign : alignUp size memoryAlign with
  | error fault => rfl
  | ok length =>
      obtain ⟨-, -, rfl⟩ := alignUp_eq_ok_iff.mp halign
      simp only [Block.reserve, hsound.align_eq, Block.allocate_eq]
      by_cases hle : roundUp size memoryAlign ≤ maxMemory
      · simp only [if_pos hle]
        by_cases hfits : roundUp size memoryAlign ≤ run.thread.memory.size
        · simp only [if_pos hfits]
        · simp only [if_neg hfits]
      -- a block that is there is no longer than what can be had
      · have hfits : ¬ roundUp size memoryAlign ≤ run.thread.memory.size := by omega
        simp only [if_neg hle, if_neg hfits]

end Run

/-! ## Notes -/

/-- What somebody found in the workgroup memory, and what it left there. -/
structure Access where
  found : Bytes
  left : Bytes
deriving DecidableEq, Repr

/-- The first one found these bytes and each of the others what the one before had left, all of the
same length, and in the end it is the last bytes that are there. -/
def Access.Chain (first : Bytes) : List Access → Bytes → Prop
  | [], last => last = first
  | access :: rest, last =>
    access.found = first ∧ access.left.size = first.size ∧ Chain access.left rest last

namespace Access.Chain

theorem append {later : List Access} {mid last : Bytes} :
    ∀ {accesses : List Access} {first : Bytes}, Chain first accesses mid →
      Chain mid later last → Chain first (accesses ++ later) last
  | [], _, h, hlater => by
      obtain rfl : _ = _ := h
      exact hlater
  | _ :: _, _, h, hlater => ⟨h.1, h.2.1, append h.2.2 hlater⟩

/-- All of them found and left the same length. -/
theorem size_eq {last : Bytes} : ∀ {accesses : List Access} {first : Bytes},
    Chain first accesses last → last.size = first.size
      ∧ ∀ access ∈ accesses, access.found.size = first.size ∧ access.left.size = first.size
  | [], _, h => by
      obtain rfl : _ = _ := h
      exact ⟨rfl, fun _ hmem => absurd hmem List.not_mem_nil⟩
  | access :: rest, first, h => by
      obtain ⟨hfound, hleft, hrest⟩ := h
      obtain ⟨hlast, hothers⟩ := size_eq hrest
      rw [hleft] at hlast hothers
      refine ⟨hlast, ?_⟩
      intro other hmem
      rcases List.mem_cons.mp hmem with rfl | hmem
      · exact ⟨congrArg Array.size hfound, hleft⟩
      · exact hothers other hmem

end Access.Chain

/-- The same action on a scene that has a notebook in it, with a note of what it found and left. -/
def noting {α : Type} (action : Scene σ → α × Scene σ) (scene : Scene (List Access × σ)) :
    α × Scene (List Access × σ) :=
  let done := action ⟨scene.memory, scene.shared.2⟩
  (done.1, ⟨done.2.memory, scene.shared.1
    ++ [⟨scene.memory, done.2.memory.fit scene.memory.size⟩], done.2.shared⟩)

/-- Coroutines that note what they do. -/
def Backend.noting (backend : Backend ρ σ) : Backend ρ (List Access × σ) where
  resume state scene :=
    let done := GridDispatch.noting (backend.resumption state) scene
    ⟨done.1.1, done.1.2, done.2⟩
  destroy state scene := (GridDispatch.noting (backend.destruction state) scene).2

/-- A program that notes what it does. -/
def Program.noting (program : Program ρ σ) : Program ρ (List Access × σ) where
  info := program.info
  start constants workgroup subgroups :=
    GridDispatch.noting (program.start constants workgroup subgroups)

/-- The context for the program that takes notes. -/
def Context.noting (context : Context ρ σ) : Context ρ (List Access × σ) :=
  context.reprogram (context.program.map Program.noting)

/-- The same run with an empty notebook. -/
def Run.noting (run : Run ρ σ) : Run ρ (List Access × σ) :=
  ⟨run.thread, ([], run.shared), run.events⟩

/-- The notes are all that is different. -/
def Noted (shared : σ) (noted : List Access × σ) : Prop :=
  noted.2 = shared

theorem actsAlike_noting {α : Type} (action : Scene σ → α × Scene σ) :
    ActsAlike Noted action (noting action) := by
  rintro memory _ ⟨notes, shared⟩ rfl
  exact ⟨rfl, rfl, rfl⟩

theorem Backend.alike_noting (backend : Backend ρ σ) :
    backend.Alike (fun _ => True) Noted backend.noting where
  resume state _ := actsAlike_noting (backend.resumption state)
  own_resume _ _ _ := trivial
  destroy state _ := actsAlike_noting (backend.destruction state)

theorem Program.alike_noting (constants : Constants) (program : Program ρ σ) :
    program.Alike (fun _ => True) Noted constants program.noting where
  start _ _ := actsAlike_noting _
  own_start _ _ _ _ _ := trivial

namespace Run

theorem coupled_noting (run : Run ρ σ) :
    Coupled (fun _ => True) Noted run.log run.log run run.noting :=
  ⟨rfl, fun _ _ => trivial, rfl, [], (List.append_nil _).symm, (List.append_nil _).symm⟩

/-! ## What is noted -/

/-- From one run to the other, notes were taken that lead from the memory of the one to the memory
of the other. -/
def Traces (run after : Run ρ (List Access × σ)) : Prop :=
  ∃ accesses, after.shared.1 = run.shared.1 ++ accesses
    ∧ Access.Chain run.thread.memory.bytes accesses after.thread.memory.bytes

namespace Traces

variable {run mid after : Run ρ (List Access × σ)}

theorem of_eq (hshared : after.shared = run.shared)
    (hmemory : after.thread.memory = run.thread.memory) : Traces run after := by
  refine ⟨[], ?_, ?_⟩
  · rw [hshared, List.append_nil]
  · rw [hmemory]
    rfl

theorem refl (run : Run ρ (List Access × σ)) : Traces run run :=
  of_eq rfl rfl

theorem trans (h : Traces run mid) (hnext : Traces mid after) : Traces run after := by
  obtain ⟨accesses, hnotes, hchain⟩ := h
  obtain ⟨later, hlater, hrest⟩ := hnext
  refine ⟨accesses ++ later, ?_, hchain.append hrest⟩
  rw [hlater, hnotes, List.append_assoc]

/-- An action that is noted. -/
theorem act {α : Type} (run : Run ρ (List Access × σ)) (action : Scene σ → α × Scene σ) :
    Traces run (run.act (GridDispatch.noting action)).2 :=
  ⟨[_], rfl, rfl, Bytes.size_fit _ _, rfl⟩

theorem destroy (backend : Backend ρ σ) (run : Run ρ (List Access × σ))
    (coroutine : Coroutine ρ) : Traces run (run.destroy backend.noting coroutine) :=
  (act run (backend.destruction coroutine.state)).trans (of_eq rfl rfl)

theorem enqueue (backend : Backend ρ σ) (run : Run ρ (List Access × σ))
    (coroutine : Coroutine ρ) : Traces run (run.enqueue backend.noting coroutine).2 := by
  unfold Run.enqueue
  cases run.thread.queue.push coroutine with
  | error fault => exact destroy backend run coroutine
  | ok pushed =>
      obtain ⟨ring, growth⟩ := pushed
      cases growth with
      | none => exact of_eq rfl rfl
      | some growth => exact of_eq rfl rfl

theorem resume (backend : Backend ρ σ) (run : Run ρ (List Access × σ))
    (coroutine : Coroutine ρ) : Traces run (run.resume backend.noting coroutine).2 := by
  have hacted := act run (backend.resumption coroutine.state)
  rw [resume_eq]
  dsimp only
  have hnoted : Traces run ((run.act (backend.noting.resumption coroutine.state)).2.record
      (.resumed coroutine.ticket (run.act (backend.noting.resumption coroutine.state)).1.1)) :=
    hacted.trans (of_eq rfl rfl)
  split
  · exact hnoted.trans (destroy backend _ _)
  · exact hnoted.trans (enqueue backend _ _)
  · exact hnoted.trans (destroy backend _ _)

theorem spawn (backend : Backend ρ σ) (program : Program ρ σ) (constants : Constants)
    (workgroup : Coord) (run : Run ρ (List Access × σ)) (subgroups : Subgroups) :
    Traces run (run.spawn backend.noting program.noting constants workgroup subgroups).2 := by
  have hacted : Traces run (run.act (program.noting.start constants workgroup subgroups)).2 :=
    act run (program.start constants workgroup subgroups)
  unfold Run.spawn
  split
  · next heq =>
      rw [heq] at hacted
      exact hacted
  · next heq =>
      rw [heq] at hacted
      exact hacted.trans ((of_eq rfl rfl).trans (enqueue backend _ _))

end Traces

/-- Whatever a thread does, it is noted. -/
theorem Step.traces {backend : Backend ρ σ} {program : Program ρ σ} {constants : Constants}
    {run after : Run ρ (List Access × σ)}
    (h : Step backend.noting program.noting constants run after) : Traces run after := by
  cases h with
  | spawn workgroup subgroups => exact .spawn backend program constants workgroup run subgroups
  | resume hpop => exact Traces.trans (.of_eq rfl rfl) (.resume backend _ _)
  | destroy hpop => exact Traces.trans (.of_eq rfl rfl) (.destroy backend _ _)
  | pass hpop => exact .of_eq rfl rfl

theorem Reaches.traces {backend : Backend ρ σ} {program : Program ρ σ} {constants : Constants}
    {run after : Run ρ (List Access × σ)}
    (h : Reaches backend.noting program.noting constants run after) : Traces run after :=
  h.keeps (fun _ _ hstep htraces => htraces.trans hstep.traces) (.refl run)

end Run

/-! ## Lengths -/

namespace Context

variable {context : Context ρ σ} {index : Nat}

theorem demand?_of_refused (h : ¬ (context.program.isSome ∧ index < context.threads)) :
    context.demand? index = none := by
  rw [demand?, if_neg]
  exact fun hall => h ⟨hall.1, hall.2.1⟩

/-- An accepted dispatch asks for its memory, rounded up, unless it cannot be had. -/
theorem demand?_of_accepted (h : context.program.isSome ∧ index < context.threads) :
    context.demand? index = match memoryFault context.memorySize with
      | some _ => none
      | none => some (roundUp context.memorySize memoryAlign) := by
  cases hmemory : memoryFault context.memorySize with
  | some fault =>
      rw [demand?, if_neg]
      rintro ⟨-, -, hfits⟩
      rw [memoryFault_eq_none_iff.mpr hfits] at hmemory
      cases hmemory
  | none => rw [demand?, if_pos ⟨h.1, h.2, memoryFault_eq_none_iff.mp hmemory⟩]

end Context

namespace Run

variable {run : Run ρ σ}

/-- Memory is only ever made longer. -/
theorem size_reserveMemory (hsound : run.thread.memory.Sound) (size : Nat) :
    (run.reserveMemory size).2.thread.memory.size = match memoryFault size with
      | some _ => run.thread.memory.size
      | none => max run.thread.memory.size (roundUp size memoryAlign) := by
  rw [reserveMemory_eq hsound]
  cases memoryFault size with
  | some fault => rfl
  | none =>
      dsimp only
      by_cases hfits : roundUp size memoryAlign ≤ run.thread.memory.size
      · rw [if_pos hfits, Nat.max_eq_left hfits]
      · rw [if_neg hfits, Nat.max_eq_right (Nat.le_of_not_le hfits)]
        exact Bytes.size_zeros _

/-- What a dispatch does to the length. -/
theorem Keeps.size_dispatch (h : run.Keeps [] []) (backend : Backend ρ σ) (context : Context ρ σ)
    (index : Nat) : (context.dispatch backend index run).2.thread.memory.size
      = max run.thread.memory.size ((context.demand? index).getD 0) := by
  by_cases haccept : context.program.isSome ∧ index < context.threads
  · obtain ⟨program, hprogram⟩ := Option.isSome_iff_exists.mp haccept.1
    obtain ⟨cleared, hdiscard, hsound, -⟩ := h.discard backend
    have hcleared : Reaches backend program context.constants run (run.discard backend).2 :=
      reaches_discard run
    rw [hdiscard] at hcleared
    obtain ⟨last, hlast, heq⟩ := dispatch_reaches hprogram haccept.2 hdiscard
    -- single steps leave the length alone, so only the reservation counts
    have hsize : (context.dispatch backend index run).2.thread.memory.size
        = last.thread.memory.size := by
      rcases heq with heq | ⟨stats, heq⟩
      · rw [heq]
      · rw [heq]
        rfl
    rw [hsize, hlast.quiet.size_eq, size_reserveMemory hsound, hcleared.quiet.size_eq,
      Context.demand?_of_accepted haccept]
    cases memoryFault context.memorySize with
    | some fault => exact (Nat.max_eq_left (Nat.zero_le _)).symm
    | none => rfl
  · obtain ⟨refusal, heq⟩ := dispatch_of_refused backend haccept run
    rw [heq, Context.demand?_of_refused haccept]
    exact (Nat.max_eq_left (Nat.zero_le _)).symm

end Run

namespace Operation

theorem longest_append_toList (demands : List Nat) (demand? : Option Nat) :
    longest (demands ++ demand?.toList) = max (longest demands) (demand?.getD 0) := by
  rw [longest, List.foldl_append]
  cases demand? with
  | none => exact (Nat.max_eq_left (Nat.zero_le _)).symm
  | some demand => rfl

theorem size_perform {run : Run ρ σ} (h : run.Keeps [] []) {demands : List Nat}
    (hsize : run.thread.memory.size = longest demands) (backend : Backend ρ σ)
    (operation : Operation ρ σ) :
    (operation.perform backend run).thread.memory.size
      = longest (demandsAfter demands operation) := by
  cases operation with
  | dispatch context index =>
      rw [demandsAfter, longest_append_toList, ← hsize]
      exact h.size_dispatch backend context index
  | release => rfl
  | meanwhile shared => exact hsize

theorem size_performAll (backend : Backend ρ σ) (operations : List (Operation ρ σ)) :
    ∀ {run : Run ρ σ} {demands : List Nat}, run.Keeps [] [] →
      run.thread.memory.size = longest demands →
      (performAll backend operations run).thread.memory.size
        = longest (operations.foldl demandsAfter demands) := by
  induction operations with
  | nil => exact fun _ hsize => hsize
  | cons operation rest ih =>
      exact fun h hsize => ih (keeps_perform h backend operation) (size_perform h hsize _ _)

end Operation

/-! ## Contents -/

/-- Destroying coroutines that leave the memory alone leaves it alone. -/
theorem View.memory_foldl_destroy {backend : Backend ρ σ} (list : List (Coroutine ρ)) :
    ∀ {view : View ρ σ}, (∀ coroutine ∈ list, ∀ scene : Scene σ,
        (backend.destroy coroutine.state scene).memory = scene.memory) →
      (list.foldl (View.destroy backend) view).scene.memory = view.scene.memory := by
  induction list with
  | nil => exact fun _ => rfl
  | cons coroutine rest ih =>
      intro view h
      obtain ⟨hfirst, hrest⟩ := List.forall_mem_cons.mp h
      rw [List.foldl_cons, ih hrest]
      change (backend.destroy coroutine.state view.scene).memory.fit view.scene.memory.size = _
      rw [hfirst]
      exact Bytes.fit_of_size_eq rfl

namespace Run

/-- What is in the memory once the queue is discarded. -/
def keptBytes (backend : Backend ρ σ) (run : Run ρ σ) : Bytes :=
  (run.discard backend).2.thread.memory.bytes

/-- It is what was there before, if those who are destroyed leave it alone. -/
theorem Keeps.keptBytes_eq {run : Run ρ σ} (h : run.Keeps [] []) {backend : Backend ρ σ}
    (hharmless : ∀ coroutine ∈ run.thread.queue.toList, ∀ scene : Scene σ,
      (backend.destroy coroutine.state scene).memory = scene.memory) :
    run.keptBytes backend = run.thread.memory.bytes := by
  obtain ⟨view, hshows, -, -⟩ := h
  obtain ⟨cleared, hdiscard, hcleared⟩ := hshows.discard_eq backend
  rw [hshows.queue.toList_eq] at hharmless
  have hkept : cleared.thread.memory.bytes = (view.discard backend).scene.memory :=
    congrArg Scene.memory hcleared.scene
  have hbytes : run.thread.memory.bytes = view.scene.memory := congrArg Scene.memory hshows.scene
  rw [keptBytes, hdiscard, hkept, hbytes]
  exact View.memory_foldl_destroy view.queue hharmless

end Run

/-- What becomes of the memory of a thread in a dispatch that is accepted, by the notes that were
taken while what was left over was destroyed, and while the share was run. -/
structure Context.MemoryCourse (context : Context ρ σ) (backend : Backend ρ σ) (index : Nat)
    (run : Run ρ σ) (destroying share : List Access) : Prop where
  /-- These are all the notes. -/
  notes_eq : (context.noting.dispatch backend.noting index run.noting).2.shared.1
    = destroying ++ share
  /-- Taking them makes no difference to the dispatch. -/
  unnoticed : (context.noting.dispatch backend.noting index run.noting).1
      = (context.dispatch backend index run).1
    ∧ (context.noting.dispatch backend.noting index run.noting).2.thread
      = (context.dispatch backend index run).2.thread
    ∧ (context.noting.dispatch backend.noting index run.noting).2.shared.2
      = (context.dispatch backend index run).2.shared
    ∧ (context.noting.dispatch backend.noting index run.noting).2.events
      = (context.dispatch backend index run).2.events
  /-- Leftovers are destroyed in the memory as the last dispatch has left it. -/
  destroying : Access.Chain run.thread.memory.bytes destroying (run.keptBytes backend)
  /-- If the memory can be had, the share starts with what is there or, if that is too short, with
  zeros, and everyone in it works on the same block. -/
  had : ∀ length, context.demand? index = some length →
    (context.dispatch backend index run).2.thread.memory.size
        = max run.thread.memory.size length
      ∧ Access.Chain
        (if length ≤ run.thread.memory.size then run.keptBytes backend else Bytes.zeros length)
        share (context.dispatch backend index run).2.thread.memory.bytes
      ∧ ∀ access ∈ share,
        access.found.size = (context.dispatch backend index run).2.thread.memory.size
        ∧ access.left.size = (context.dispatch backend index run).2.thread.memory.size
  /-- If not, the dispatch faults before anything is begun, and the memory stays. -/
  notHad : context.demand? index = none →
    (∃ fault, (context.dispatch backend index run).1 = .error (.faulted fault))
      ∧ share = []
      ∧ (context.dispatch backend index run).2.history
        = run.history ++ run.queued.map .destroyed
      ∧ (context.dispatch backend index run).2.thread.memory.size = run.thread.memory.size
      ∧ (context.dispatch backend index run).2.thread.memory.bytes = run.keptBytes backend

/-- Memory that can be had is what was there, if that is long enough, and zeros otherwise. -/
theorem Run.bytes_reserveMemory {run : Run ρ σ} (hsound : run.thread.memory.Sound) {size : Nat}
    (hmemory : memoryFault size = none) :
    (run.reserveMemory size).2.thread.memory.bytes
      = if roundUp size memoryAlign ≤ run.thread.memory.size then run.thread.memory.bytes
        else Bytes.zeros (roundUp size memoryAlign) := by
  rw [reserveMemory_eq hsound, hmemory]
  dsimp only
  by_cases hfits : roundUp size memoryAlign ≤ run.thread.memory.size
  · rw [if_pos hfits, if_pos hfits]
  · rw [if_neg hfits, if_neg hfits]
    rfl

theorem Run.shared_reserveMemory (run : Run ρ σ) (size : Nat) :
    (run.reserveMemory size).2.shared = run.shared := by
  unfold reserveMemory
  split
  · rfl
  · split <;> rfl

/-- A dispatch that does not get its memory does no more than discard the queue. -/
theorem Run.dispatch_of_noMemory {backend : Backend ρ σ} {program : Program ρ σ}
    {run cleared : Run ρ σ} {context : Context ρ σ} {index : Nat}
    (hprogram : context.program = some program) (hindex : index < context.threads)
    (hdiscard : run.discard backend = (.ok (), cleared)) (hsound : cleared.thread.memory.Sound)
    {fault : Fault} (hmemory : memoryFault context.memorySize = some fault) :
    context.dispatch backend index run = (.error (.faulted fault), cleared) := by
  rw [dispatch_eq_of_discard hprogram hindex hdiscard, reserveMemory_eq hsound, hmemory]

/-- One that takes notes, and gets its memory, notes what happens in its share. -/
theorem Run.share_traced {backend : Backend ρ σ} {program : Program ρ σ} {context : Context ρ σ}
    {run cleared : Run ρ (List Access × σ)} {index : Nat}
    (hprogram : context.noting.program = some program.noting) (hindex : index < context.threads)
    (hdiscard : run.discard backend.noting = (.ok (), cleared))
    (hsound : cleared.thread.memory.Sound) (hmemory : memoryFault context.memorySize = none) :
    let after := (context.noting.dispatch backend.noting index run).2
    let length := roundUp context.memorySize memoryAlign
    ∃ share, after.shared.1 = cleared.shared.1 ++ share
      ∧ Access.Chain (if length ≤ cleared.thread.memory.size then cleared.thread.memory.bytes
          else Bytes.zeros length) share after.thread.memory.bytes := by
  intro after length
  obtain ⟨last, hlast, heq⟩ := dispatch_reaches hprogram hindex hdiscard
  have hafter : Traces last after := by
    rcases heq with heq | ⟨stats, heq⟩
    · rw [show after = _ from heq]
      exact .refl last
    · rw [show after = _ from heq]
      exact .of_eq rfl rfl
  obtain ⟨share, hnotes, hchain⟩ := hlast.traces.trans hafter
  refine ⟨share, ?_, ?_⟩
  · rw [hnotes, shared_reserveMemory]
  · rw [← bytes_reserveMemory hsound hmemory]
    exact hchain

/-- Taking notes makes no difference to a dispatch. -/
theorem Run.dispatch_noting (backend : Backend ρ σ) {context : Context ρ σ}
    (haccept : context.program.isSome) (index : Nat) (run : Run ρ σ) :
    (context.noting.dispatch backend.noting index run.noting).1
        = (context.dispatch backend index run).1
      ∧ (context.noting.dispatch backend.noting index run.noting).2.thread
        = (context.dispatch backend index run).2.thread
      ∧ (context.noting.dispatch backend.noting index run.noting).2.shared.2
        = (context.dispatch backend index run).2.shared
      ∧ (context.noting.dispatch backend.noting index run.noting).2.events
        = (context.dispatch backend index run).2.events := by
  obtain ⟨program, hprogram⟩ := Option.isSome_iff_exists.mp haccept
  have hnoting : context.noting = context.reprogram (some program.noting) := by
    rw [Context.noting, hprogram]
    rfl
  obtain ⟨hanswer, hthread, -, hshared, more, hlog, hlog'⟩ :=
    run.coupled_noting.dispatch backend.alike_noting hprogram
      (program.alike_noting context.constants) index
  rw [← hnoting] at hanswer hthread hshared hlog'
  exact ⟨hanswer, hthread, hshared, Array.toList_inj.mp (hlog'.trans hlog.symm)⟩

/-- Nor to discarding the queue, and the notes that are taken then lead to what is kept. -/
theorem Run.Keeps.discard_noting {run : Run ρ σ} (h : run.Keeps [] []) (backend : Backend ρ σ)
    (program : Program ρ σ) (constants : Constants) :
    ∃ cleared cleared', run.discard backend = (.ok (), cleared)
      ∧ run.noting.discard backend.noting = (.ok (), cleared')
      ∧ cleared'.thread = cleared.thread ∧ cleared.thread.memory.Sound
      ∧ cleared.thread.memory.size = run.thread.memory.size
      ∧ cleared.thread.memory.bytes = run.keptBytes backend
      ∧ Access.Chain run.thread.memory.bytes cleared'.shared.1 (run.keptBytes backend) := by
  obtain ⟨cleared, hdiscard, hsound, -⟩ := h.discard backend
  obtain ⟨_, _, cleared', hfirst, hdiscard', hcleared⟩ :=
    (run.coupled_noting.discard backend.alike_noting).exists_eq
  cases hdiscard.symm.trans hfirst
  have hreaches : Reaches backend.noting program.noting constants run.noting
      (run.noting.discard backend.noting).2 := reaches_discard run.noting
  rw [hdiscard'] at hreaches
  have hsize : cleared'.thread.memory.size = run.thread.memory.size := hreaches.quiet.size_eq
  have hkept : cleared.thread.memory.bytes = run.keptBytes backend := by
    rw [keptBytes, hdiscard]
  obtain ⟨destroying, hnotes, hchain⟩ := hreaches.traces
  rw [hcleared.thread_eq] at hsize hchain
  refine ⟨cleared, cleared', hdiscard, hdiscard', hcleared.thread_eq, hsound, hsize, hkept, ?_⟩
  rw [show cleared'.shared.1 = destroying from hnotes, ← hkept]
  exact hchain

theorem Run.Keeps.memoryCourse {run : Run ρ σ} (h : run.Keeps [] []) (backend : Backend ρ σ)
    {context : Context ρ σ} {index : Nat}
    (haccept : context.program.isSome ∧ index < context.threads) :
    ∃ destroying share, context.MemoryCourse backend index run destroying share := by
  obtain ⟨program, hprogram⟩ := Option.isSome_iff_exists.mp haccept.1
  have hprogram' : context.noting.program = some program.noting := by
    rw [Context.noting, Context.program_reprogram, hprogram]
    rfl
  have hunnoticed := dispatch_noting backend haccept.1 index run
  obtain ⟨cleared, cleared', hdiscard, hdiscard', hsame, hsound, hsize, hkept, hchain⟩ :=
    h.discard_noting backend program context.constants
  have hsound' : cleared'.thread.memory.Sound := hsame ▸ hsound
  have hdemand := Context.demand?_of_accepted haccept
  have hlength := h.size_dispatch backend context index
  cases hmemory : memoryFault context.memorySize with
  -- both dispatches end where the queue is discarded
  | some fault =>
      rw [hmemory] at hdemand
      have heq := dispatch_of_noMemory hprogram haccept.2 hdiscard hsound hmemory
      have heq' := dispatch_of_noMemory hprogram' haccept.2 hdiscard' hsound' hmemory
      obtain ⟨view, hshows, -, -⟩ := h
      obtain ⟨after, hfault, hafter⟩ :=
        hshows.dispatch_of_memoryFault backend hprogram haccept.2 hmemory
      refine ⟨cleared'.shared.1, [],
        ⟨?_, hunnoticed, hchain, ?_, fun _ => ⟨⟨fault, ?_⟩, rfl, ?_, ?_, ?_⟩⟩⟩
      · rw [heq', List.append_nil]
      · intro length hsome
        rw [hdemand] at hsome
        cases hsome
      · rw [heq]
      · rw [hfault, hafter.history, hshows.history_discard]
      · rw [heq, hsize]
      · rw [heq, hkept]
  -- the notes of the share are about the dispatch without notes, since the threads are equal
  | none =>
      rw [hmemory] at hdemand
      obtain ⟨share, hshare, hwork⟩ :=
        share_traced hprogram' haccept.2 hdiscard' hsound' hmemory
      rw [hsame, hsize, hkept, hunnoticed.2.1] at hwork
      refine ⟨cleared'.shared.1, share, ⟨hshare, hunnoticed, hchain, ?_, ?_⟩⟩
      · intro length hsome
        obtain rfl : roundUp context.memorySize memoryAlign = length :=
          Option.some.inj (hdemand.symm.trans hsome)
        obtain ⟨hlast, hall⟩ := hwork.size_eq
        rw [hdemand] at hlength
        refine ⟨hlength, hwork, fun access hmem => ?_⟩
        rw [← hlast] at hall
        exact hall access hmem
      · intro hnone
        rw [hdemand] at hnone
        cases hnone

/-- **The workgroup memory over the life of a thread**, for every history of dispatches, whatever
they answered, and releases. The memory is as long as the longest that was asked for since the last
release, by a dispatch that was accepted and could have it. A dispatch that is refused leaves the
thread alone. In any other one the leftovers are destroyed in the memory as it is, and if they leave
it alone then it still holds the bytes of the last dispatch. Then, if the dispatch can have its
memory, the share starts with these bytes or, in a block that had to be longer, with zeros, and from
there on each of its coroutines finds what the one that acted before it has left, through all of its
workgroups. If it cannot, nothing is begun, and length and contents stay. -/
theorem Operation.memory_of_performAll (backend : Backend ρ σ) (shared : σ)
    (operations : List (Operation ρ σ)) :
    let run := performAll backend operations (.fresh shared)
    run.thread.memory.size = longest (demands operations)
    ∧ ∀ (context : Context ρ σ) (index : Nat),
      (¬ (context.program.isSome ∧ index < context.threads) →
        (context.dispatch backend index run).2 = run)
      ∧ (context.program.isSome ∧ index < context.threads →
        ((∀ coroutine ∈ run.thread.queue.toList, ∀ scene : Scene σ,
            (backend.destroy coroutine.state scene).memory = scene.memory) →
          run.keptBytes backend = run.thread.memory.bytes)
        ∧ ∃ destroying share, context.MemoryCourse backend index run destroying share) := by
  intro run
  have hkeeps : run.Keeps [] [] := keeps_performAll backend operations (keeps_fresh shared)
  refine ⟨size_performAll backend operations (keeps_fresh shared) rfl, ?_⟩
  intro context index
  refine ⟨fun hrefuse => ?_, fun haccept => ⟨hkeeps.keptBytes_eq, ?_⟩⟩
  · obtain ⟨refusal, heq⟩ := Run.dispatch_of_refused backend hrefuse run
    rw [heq]
  · exact hkeeps.memoryCourse backend haccept

/-- A dispatch that could not begin all of its coroutines leaves 32 bytes and two coroutines. One
that asks for 50 more then finds 64 zeros, and one that asks for too much faults and changes
nothing. -/
theorem Operation.memory_of_performAll_brief :
    let run := performAll (idle Unit) [.dispatch (briefContext 2) 0] (.fresh ())
    let wider : Context Unit Unit := { briefContext 3 with memorySize := 50 }
    let greedy : Context Unit Unit := { briefContext 3 with memorySize := word - 1 }
    run.thread.memory.size = 32
    ∧ (∃ share, (wider.dispatch (idle Unit) 0 run).2.thread.memory.size = 64
      ∧ Access.Chain (Bytes.zeros 64) share
        (wider.dispatch (idle Unit) 0 run).2.thread.memory.bytes)
    ∧ (∃ fault, (greedy.dispatch (idle Unit) 0 run).1 = .error (.faulted fault))
    ∧ (greedy.dispatch (idle Unit) 0 run).2.thread.memory.bytes = run.thread.memory.bytes := by
  intro run wider greedy
  obtain ⟨hsize, hcourse⟩ := memory_of_performAll (idle Unit) () [.dispatch (briefContext 2) 0]
  have hlong : run.thread.memory.size = 32 := hsize
  obtain ⟨-, _, share, hwider⟩ := (hcourse wider 0).2 ⟨rfl, by decide⟩
  obtain ⟨hkept, _, _, hgreedy⟩ := (hcourse greedy 0).2 ⟨rfl, by decide⟩
  have hdemand : wider.demand? 0 = some 64 := by decide
  obtain ⟨hlength, hchain, -⟩ := hwider.had 64 hdemand
  obtain ⟨hfault, -, -, -, hbytes⟩ := hgreedy.notHad (by decide)
  refine ⟨hlong, ⟨share, ?_, ?_⟩, hfault, hbytes.trans (hkept fun _ _ _ => rfl)⟩
  · rw [hlength, hlong]
    rfl
  · rwa [if_neg (by rw [hlong]; decide)] at hchain

end GridDispatch
