/-
The history of a dispatch.

A dispatch is observed through its events: coroutines that are begun, resumed and
destroyed, memory and queues that grow, and work that is finished. A coroutine is
named in the history by its ticket, which is handed out when it is begun and holds
a serial number that its thread uses only once. A resumption is recorded with what
the coroutine answered. Some events are also written to the log; `Event.logLine`
gives the line.
-/
import GridDispatch.Coroutine.Basic
import GridDispatch.Schedule.Ring
import GridDispatch.Schedule.Stats
import GridDispatch.Workgroup.Coord
import GridDispatch.Workgroup.Subgroups

set_option autoImplicit false

namespace GridDispatch

/-- The name of a coroutine. -/
structure Ticket where
  /-- How many coroutines the thread had begun before. -/
  serial : Nat
  workgroup : Coord
  subgroups : Subgroups
deriving DecidableEq, Repr

/-- What happens in a dispatch. -/
inductive Event where
  | begun (ticket : Ticket)
  | resumed (ticket : Ticket) (answer : Except Fault Progress)
  | destroyed (ticket : Ticket)
  /-- A thread's workgroup memory was replaced by a longer block. -/
  | memoryGrown (size : Nat)
  /-- A thread's workgroup memory was given up. -/
  | memoryReleased
  /-- A thread's queue was given more slots. -/
  | queueGrown (growth : Growth)
  /-- The storage of a context was replaced by a longer block. -/
  | storageGrown (size : Nat)
  /-- A thread has run its share. -/
  | shareDone (thread threads : Nat) (stats : Stats)
  /-- All threads have run their shares. -/
  | dispatchDone (threads : Nat) (stats : Stats)
deriving DecidableEq, Repr

/-- The line an event writes to the log, if any. -/
def Event.logLine : Event → Option String
  | .memoryGrown size =>
    some ("DEBUG thread workgroup memory grown to " ++ toString size ++ " bytes")
  | .queueGrown growth =>
    some ("DEBUG coroutine queue grown from " ++ toString growth.before ++ " to "
      ++ toString growth.after)
  | .storageGrown size =>
    some ("DEBUG descriptor set storage grown to " ++ toString size ++ " bytes")
  | .shareDone thread threads stats =>
    some ("TRACE thread " ++ toString thread ++ "/" ++ toString threads ++ ": " ++ stats.display)
  | .dispatchDone threads stats =>
    some ("TRACE dispatch on " ++ toString threads ++ " threads: " ++ stats.display)
  | .begun _ | .resumed _ _ | .destroyed _ | .memoryReleased => none

/-- The lines of a history. -/
def logLines (events : List Event) : List String :=
  events.filterMap Event.logLine

end GridDispatch
