import Fsmon.Basic
import Fsmon.Types
import Fsmon.Drivers
import Fsmon.Aggregate
import Fsmon.Filter
import Fsmon.Classify
import Fsmon.Learn
import Fsmon.Report
import Fsmon.Watch
import Fsmon.Machine
import Fsmon.Flush
import Fsmon.Cleanup
import Fsmon.Pipeline
import Fsmon.Lifecycle
import Fsmon.Rules
import Fsmon.Arming
import Fsmon.Provenance
import Fsmon.Heap
