/-
The countdown: entry points of a native program that waits a fixed number of times.

Its frame counts down from the number it was made with plus the first push constant.
It answers its running byte while the count is not negative. If the program declares
workgroup memory, every resumption adds one to the first byte of it.
-/
import GridDispatch.Coroutine.Native
import GridDispatch.Session.World

set_option autoImplicit false

namespace GridDispatch

/-- A program that counts down. -/
structure Countdown where
  yields : Int
  /-- What `await` answers while the coroutine is running. -/
  running : UInt8
  usesMemory : Bool
deriving DecidableEq, Repr

/-- The frame of a coroutine that counts down. -/
structure CountdownFrame where
  call : BeginCall
  remaining : Int
  running : UInt8
  usesMemory : Bool
deriving DecidableEq, Repr

namespace CountdownFrame

def note (frame : CountdownFrame) (scene : Scene World) (body : NoteBody) : Scene World :=
  let call := frame.call
  { scene with shared := scene.shared.note ⟨call.x, call.y, call.z, call.firstSubgroup, body⟩ }

def await (frame : CountdownFrame) (scene : Scene World) :
    UInt8 × CountdownFrame × Scene World :=
  let scene := frame.note scene .resumed
  let scene := if frame.usesMemory then
    { scene with memory := scene.memory.modify 0 (· + 1) } else scene
  let frame := { frame with remaining := frame.remaining - 1 }
  (if 0 ≤ frame.remaining then frame.running else 0, frame, scene)

end CountdownFrame

namespace Countdown

/-- The entry points. Frames carry all that distinguishes programs, so only `begin`
depends on which program it is. -/
def entry (countdown : Countdown) : EntryPoints CountdownFrame World where
  begin constants call scene :=
    let frame : CountdownFrame := ⟨call,
      countdown.yields + (constants.pushConstants.getD 0 0).toNat, countdown.running,
      countdown.usesMemory⟩
    (frame, frame.note scene (.began call.subgroupCount none))
  await := CountdownFrame.await
  destroy frame scene := frame.note scene .destroyed

end Countdown

end GridDispatch
