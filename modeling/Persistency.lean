import Persistency.Library.BigEndian
import Persistency.Library.Binary64
import Persistency.Library.Disk
import Persistency.Library.FiniteMap
import Persistency.Library.Transition
import Persistency.Value
import Persistency.Rust.Api
import Persistency.Rust.JsonValue
import Persistency.Rust.JsonBackend
import Persistency.Rust.Slots
import Persistency.Rust.Kvs
import Persistency.Rust.KvsBuilder
import Persistency.Rust.Codec
import Persistency.Rust.Stability
import Persistency.Rust.Store
import Persistency.TextFormat
import Persistency.Library.Adler32
import Persistency.Rust.ConcurrentBuild
import Persistency.Rust.CrashedFlush
import Persistency.Rust.FailedFlush
import Persistency.Rust.Reconfigured
import Persistency.Rust.BrokenPair
import Persistency.Rust.Isolation
import Persistency.Rust.LoadModes
import Persistency.Rust.History
import Persistency.Rust.Refinement
import Persistency.Agreement
import Persistency.Cpp.Integrity
import Persistency.Cpp.Grammar
import Persistency.Cpp.FailedFlush
import Persistency.Cpp.ConcurrentFlush
import Persistency.Cpp.Snapshots
import Persistency.Untagged
import Persistency.Cpp.HashLoop
import Persistency.HashFile
import Persistency.Rust.KvsTool
import Persistency.Rust.Payload
import Persistency.Rust.DynBackend
import Persistency.Rust.PoolDiscipline
import Persistency.Library.Acyclic
import Persistency.Cpp.Objects
import Persistency.Cpp.Tags
import Persistency.Library.Task
import Persistency.Library.Guarded
import Persistency.Library.Stoppable
import Persistency.Rust.Tasks
import Persistency.Rust.ConcurrentCalls
import Persistency.Rust.ConcurrentCount
import Persistency.Rust.FlushEvents
import Persistency.Rust.InterruptedFlush
import Persistency.Rust.StuckFlush
import Persistency.Cpp.InterruptedFlush
import Persistency.Cpp.Healing
import Persistency.Rust.SlotTable
import Persistency.Rust.SlottedStore
import Persistency.Rust.ToolRuns
