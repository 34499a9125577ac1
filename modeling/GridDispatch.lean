import GridDispatch.Bytes.Hex
import GridDispatch.Declaration.Expansion
import GridDispatch.Session.Basic
import GridDispatch.Sidecar.Record
import GridDispatch.Storage.Layout
import GridDispatch.Proofs.RingWindow
import GridDispatch.Proofs.RunView
import GridDispatch.Proofs.Turns
import GridDispatch.Proofs.History
import GridDispatch.Proofs.Prepared
import GridDispatch.Proofs.WorkgroupSchedule
import GridDispatch.Proofs.Recovery
import GridDispatch.Proofs.ShareSchedule
import GridDispatch.Proofs.Partition
import GridDispatch.Proofs.Begun
import GridDispatch.Proofs.Lanes
import GridDispatch.Proofs.Completion
import GridDispatch.Proofs.GlobalIds
import GridDispatch.Proofs.MemoryHandles
import GridDispatch.Proofs.ContextHistory
import GridDispatch.Proofs.NativeCalls
import GridDispatch.Proofs.Pacing
import GridDispatch.Proofs.Accounting
import GridDispatch.Proofs.Acceptance
import GridDispatch.Proofs.BoundSets
import GridDispatch.Proofs.Bindings
import GridDispatch.Proofs.Course
import GridDispatch.Proofs.CourseLives
import GridDispatch.Proofs.Backends
import GridDispatch.Proofs.RingCapacity
import GridDispatch.Proofs.QueueCapacity
import GridDispatch.Proofs.Lockstep
import GridDispatch.Proofs.MemoryLife
import GridDispatch.Proofs.SumOfParts
import GridDispatch.Proofs.Buffers
import GridDispatch.Proofs.Images
import GridDispatch.Proofs.MemoryAccess
import GridDispatch.Proofs.Tables
import GridDispatch.Proofs.Alignment
import GridDispatch.Proofs.BlockLives
import GridDispatch.Proofs.Expansions
import GridDispatch.Proofs.RoundTrip
