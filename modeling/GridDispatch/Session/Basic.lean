/-
Sessions: a host that prepares and dispatches programs.

A session is one dispatch context, the threads it has named so far, and the host's
buffers and images. Each request answers, and changes the session, or fails and says
why; `Reply` holds the answer with the notes and log lines that the request left,
which a failed request can have too.
-/
import GridDispatch.Schedule.Dispatch
import GridDispatch.Session.Routine

set_option autoImplicit false

namespace GridDispatch

/-- A host at work. -/
structure Session where
  context : Context Routine World
  threads : Array (Thread Routine)
  buffers : Array Buffer
  images : Array Image
  /-- Whether the storage may hold addresses, because a set of resources was prepared. -/
  showsAddresses : Bool

/-- The outcome of a request. -/
structure Reply (α : Type) where
  answer : Except Failure α
  notes : List Note
  log : List String

namespace Session

def initial (buffers : Array Buffer) (images : Array Image) : Session :=
  ⟨.initial, #[], buffers, images, false⟩

/-- The host's memory, with no notes yet. -/
def world (session : Session) : World :=
  ⟨session.buffers, session.images, #[]⟩

/-- The thread with this number, which has run nothing if it was not named before. -/
def thread (session : Session) (index : Nat) : Thread Routine :=
  session.threads.getD index .initial

/-- The threads, with at least so many named. -/
def named (session : Session) (count : Nat) : Array (Thread Routine) :=
  session.threads ++ Array.replicate (count - session.threads.size) .initial

def withThread (session : Session) (index : Nat) (thread : Thread Routine) : Session :=
  { session with threads := (session.named (index + 1)).setIfInBounds index thread }

/-- The session with the host's memory after a request. -/
def withWorld (session : Session) (world : World) : Session :=
  { session with buffers := world.buffers, images := world.images }

/-- An answer that leaves neither notes nor log lines. -/
def quiet {α : Type} (answer : Except Failure α) : Reply α :=
  ⟨answer, [], []⟩

/-! ## Preparing -/

/-- Where the bytes of a descriptor set come from. -/
inductive SetSource where
  | bytes (blob : Bytes)
  /-- A set of this shape over resources of the session. -/
  | resources (shape : List BindingKind) (fields : List (Option Resource))

def setBytes (session : Session) : SetSource → Bytes
  | .bytes blob => blob
  | .resources shape fields =>
    (BindingSet.encode ((shape.zip fields).map fun (kind, field) =>
      session.world.descriptor kind field)).toArray

/-- What programs find at the bindings of a set. -/
def setBindings : SetSource → Array (Option Resource)
  | .bytes _ => #[]
  | .resources _ fields => fields.toArray

/-- The parameters of a program over a set: a set of resources declares its own size. -/
def setInfo (info : SourceInfo) : SetSource → SourceInfo
  | .bytes _ => info
  | .resources shape _ => { info with setSize := BindingSet.size shape }

def prepare (session : Session) (threads : Nat) (source : Source) (info : SourceInfo)
    (set : SetSource) (grid : Coord) : Reply Unit × Session :=
  match source.program (setInfo info set) (setBindings set) with
  | .error fault => (quiet (.error (.faulted fault)), session)
  | .ok program =>
    match session.context.prepare threads program (session.setBytes set) grid with
    | (.error failure, context) => (quiet (.error failure), { session with context })
    | (.ok events, context) =>
      let showsAddresses :=
        match set with
        | .bytes _ => session.showsAddresses
        | .resources _ _ => true
      (⟨.ok (), [], logLines events⟩, { session with context, showsAddresses })

def refusedOr {α : Type} : Except Refusal α → Except Failure α
  | .error refusal => .error (.refused refusal)
  | .ok answer => .ok answer

def setPushConstants (session : Session) (bytes : Bytes) : Reply Unit × Session :=
  let (answer, context) := session.context.setPushConstants bytes
  (quiet (refusedOr answer), { session with context })

def setDynamicOffsets (session : Session) (offsets : List Nat) : Reply Unit × Session :=
  let (answer, context) := session.context.setDynamicOffsets offsets
  (quiet (refusedOr answer), { session with context })

def release (session : Session) : Session :=
  { session with context := session.context.release, showsAddresses := false }

/-! ## Dispatching -/

/-- Runs the share `index` on a thread of the session. -/
def dispatch (session : Session) (thread index : Nat) : Reply Stats × Session :=
  let (answer, run) := session.context.dispatch Routine.backend index
    ⟨session.thread thread, session.world, #[]⟩
  (⟨answer, run.shared.notes.toList, logLines run.events.toList⟩,
    (session.withThread thread run.thread).withWorld run.shared)

/-- Runs all shares on the first `count` threads of the session. The order in which
threads took turns means nothing, so notes and log lines are sorted. -/
def dispatchAll (session : Session) (count : Nat) : Reply Stats × Session :=
  let threads := session.named count
  let (answer, crew) := session.context.dispatchAll Routine.backend
    ⟨threads.extract 0 count, session.world, #[]⟩
  (⟨answer, crew.shared.notes.toList.mergeSort Note.before,
      (logLines crew.events.toList).mergeSort fun a b => decide (a ≤ b)⟩,
    { session with threads := crew.threads ++ threads.extract count threads.size }.withWorld
      crew.shared)

def releaseThread (session : Session) (index : Nat) : Reply Unit × Session :=
  let run := Run.release Routine.backend ⟨session.thread index, session.world, #[]⟩
  (⟨.ok (), run.shared.notes.toList, logLines run.events.toList⟩,
    (session.withThread index run.thread).withWorld run.shared)

/-- Replaces a thread by one that has run nothing. -/
def dropThread (session : Session) (index : Nat) : Reply Unit × Session :=
  let (reply, session) := session.releaseThread index
  (reply, session.withThread index .initial)

/-! ## Looking -/

/-- The bytes in the context's storage, unless they may hold addresses. -/
def shownSet (session : Session) : Option Bytes :=
  if session.showsAddresses then none else some session.context.storage.bytes

/-- Whether the first descriptor set is the context's storage. -/
def bindsStorage (session : Session) : Bool :=
  session.context.constants.hasSet 0 && !session.context.storage.isEmpty

def releaseBuffer (session : Session) (index : Nat) : Session :=
  { session with buffers := session.buffers.modify index Buffer.release }

end Session

end GridDispatch
