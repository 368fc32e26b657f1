import Fsmon.Basic

/-!
# The data model

The records the monitor reads and writes: the profile and access-rule types of `share`, the
process and file records handed in by the drivers, the pending `fileMod` of a path, the
`groupInfo` of a container and the outbound `MonitorMessage`.

A `*osutil.FileInfoExt` is shared by pointer between the drivers, the pending events and the
flush, and the flush writes through it.  Records therefore live in a heap of the `FileWatch`,
addressed by a `RecId`, and everything else refers to them by address.  A `ProcInfo` is never
written after it is made, so it is held by value.

What the monitor hands to the drivers and to its two callbacks is a `Call`; a step of the
model returns the calls it makes, in order.
-/

namespace Fsmon

/-! ### Profiles and access rules -/

/-- Modelled from the spec: `share.FileAccessBehaviorBlock`, the behavior `Block`. -/
def fileAccessBehaviorBlock : String := "Block"

/-- Modelled from the spec: `share.PolicyModeLearn`, the policy mode `Learn`. -/
def policyModeLearn : String := "Learn"

/-- Modelled from the spec: `share.PolicyModeEvaluate`, the policy mode `Evaluate`. -/
def policyModeEvaluate : String := "Evaluate"

/-- Modelled from the spec: `share.PolicyModeEnforce`, the policy mode `Enforce`. -/
def policyModeEnforce : String := "Enforce"

/-- Modelled from the spec: `share.PolicyActionViolate`, the action `Violate`. -/
def policyActionViolate : String := "Violate"

/-- Modelled from the spec: `share.PolicyActionDeny`, the action `Deny`. -/
def policyActionDeny : String := "Deny"

/-- `share.CLUSFileMonitorFilter`: a declarative watch target. -/
structure CLUSFileMonitorFilter where
  behavior : String
  path : String
  regex : String
  recursive : Bool
  customerAdd : Bool
  deriving DecidableEq, Repr

/-- `share.CLUSFileMonitorProfile`: the filters of a group and its policy mode. -/
structure CLUSFileMonitorProfile where
  group : String
  mode : String
  filters : List CLUSFileMonitorFilter
  filtersCRD : List CLUSFileMonitorFilter
  deriving DecidableEq, Repr

/-- `share.CLUSFileAccessFilterRule`: the applications allowed on one filter. -/
structure CLUSFileAccessFilterRule where
  apps : List String
  customerAdd : Bool
  deriving DecidableEq, Repr

/-- `share.CLUSFileAccessRule`: the access rules of a group, by filter key. -/
structure CLUSFileAccessRule where
  filters : List (String × CLUSFileAccessFilterRule)
  deriving DecidableEq, Repr

/-- `share.CLUSFileAccessRuleReq`: one learned rule sent to the controller. -/
structure CLUSFileAccessRuleReq where
  groupName : String
  filter : String
  path : String
  deriving DecidableEq, Repr

/-- `FsmonConfig`: the profile and, optionally, the access rules of a container. -/
structure FsmonConfig where
  profile : CLUSFileMonitorProfile
  rule : Option CLUSFileAccessRule

/-! ### Processes, records and pending events -/

/-- `ProcInfo`: the process behind an event, as `PidLookup` reports it. -/
structure ProcInfo where
  rootPid : Int
  name : String
  path : String
  cmds : List String
  pid : Int
  eUid : Int
  eUser : String
  pPid : Int
  pName : String
  pPath : String
  deny : Bool
  inProfile : Bool
  deriving DecidableEq, Repr

/-- `filterRegex`: the filter key of a target, its compiled pattern and whether it recurses. -/
structure FilterRegex where
  path : String
  regex : Option String
  recursive : Bool
  deriving DecidableEq, Repr

/-- The address of an `osutil.FileInfoExt` in the heap. -/
abbrev RecId := Nat

/-- `osutil.FileInfoExt`: a watched file or directory.  Its `Children` are only built and read
while `StartWatch` arms the container, so a heap record has none (see `DirTarget`). -/
structure FileInfoExt where
  containerId : String
  path : String
  fileMode : Nat
  link : String
  hash : Nat
  filter : FilterRegex
  protect : Bool
  userAdded : Bool
  deriving DecidableEq, Repr

instance : Inhabited FileInfoExt :=
  ⟨⟨"", "", 0, "", 0, ⟨"", none, false⟩, false, false⟩⟩

/-- `fileMod`: the events of one path merged since the last flush. -/
structure FileMod where
  mask : Nat
  delay : Int
  finfo : RecId
  pInfo : List ProcInfo
  deriving DecidableEq, Repr

/-- `groupInfo`: the monitoring state of one container. -/
structure GroupInfo where
  bNeuvector : Bool
  profile : CLUSFileMonitorProfile
  mode : String
  applyRules : AList (fun _ : String => StrSet)
  learnRules : AList (fun _ : String => StrSet)
  startAt : Int

/-- `MonitorMessage`: one report.  `Count` and `StartAt` are never set by the monitor. -/
structure MonitorMessage where
  id : String
  path : String
  package : Bool
  procName : String
  procPath : String
  procCmds : List String
  procPid : Int
  procEUid : Int
  procEUser : String
  procPPid : Int
  procPName : String
  procPPath : String
  group : String
  msg : String
  action : String
  deriving DecidableEq, Repr

/-! ### The walker and the host -/

/-- `workerlet.DirData`: a walked directory and its mode. -/
structure DirData where
  dir : String
  mode : Nat
  deriving DecidableEq, Repr

/-- `workerlet.FileData`: a walked file and its mode. -/
structure FileData where
  file : String
  mode : Nat
  deriving DecidableEq, Repr

/-- `workerlet.WalkPathResult`. -/
structure WalkPathResult where
  dirs : List DirData
  files : List FileData
  deriving DecidableEq, Repr

/-- What the host reports to one step of the monitor.  The file system and the process table
change between steps, so every step that looks at them is given its own `Host`. -/
structure Host where
  /-- `osutil.IsPidValid`. -/
  isPidValid : Int → Bool
  /-- `os.Lstat`: the mode of a path, or `none` on an error. -/
  lstat : String → Option Nat
  /-- `os.Stat`. -/
  stat : String → Option Nat
  /-- `os.Readlink`. -/
  readlink : String → Option String
  /-- `osutil.GetFileHash`. -/
  getFileHash : String → Option Nat
  /-- `osutil.GetFileInfoExtFromPath(pid, path, filter, protect, userAdded)`. -/
  getFileInfoExtFromPath : Int → String → FilterRegex → Bool → Bool → List FileInfoExt
  /-- The walker's answer to a `WalkPathRequest` of a pid and its base directories, or
  `none` when `getRootFs` fails (semaphore, timeout, task error or malformed reply). -/
  walk : Int → List String → Option WalkPathResult

/-! ### Calls out of the monitor -/

/-- A call of the monitor to a driver or to one of its callbacks. -/
inductive Call where
  /-- `fanotifier.AddMonitorFile(path, filter, protect, userAdded, cbNotify, finfo)`. -/
  | fanAddMonitorFile (path : String) (filter : FilterRegex) (protect userAdded : Bool)
      (finfo : RecId)
  /-- `inotifier.AddMonitorFile(path, cbNotify, finfo)`. -/
  | inoAddMonitorFile (path : String) (finfo : RecId)
  /-- `fanotifier.AddMonitorDirFile(path, filter, protect, userAdded, files, cbNotify, finfo)`. -/
  | fanAddMonitorDirFile (path : String) (filter : FilterRegex) (protect userAdded : Bool)
      (files : List (String × RecId)) (finfo : RecId)
  /-- `inotifier.AddMonitorDirFile(path, nil, cbNotify, finfo)`. -/
  | inoAddMonitorDirFile (path : String) (finfo : RecId)
  /-- `fanotifier.RemoveMonitorFile(path)`. -/
  | fanRemoveMonitorFile (path : String)
  /-- `inotifier.RemoveMonitorFile(path)`. -/
  | inoRemoveMonitorFile (path : String)
  /-- `fanotifier.ContainerCleanup(rootPid)`. -/
  | fanContainerCleanup (rootPid : Int)
  /-- `inotifier.ContainerCleanup(rootPid)`. -/
  | inoContainerCleanup (rootPid : Int)
  /-- `fanotifier.SetMode(rootPid, access, perm, capBlock, isNV)`. -/
  | fanSetMode (rootPid : Int) (access perm capBlock isNV : Bool)
  /-- `fanotifier.StartMonitor(rootPid)`. -/
  | fanStartMonitor (rootPid : Int)
  /-- `fanotifier.UpdateAccessRule(rootPid, conf)`. -/
  | fanUpdateAccessRule (rootPid : Int) (conf : CLUSFileAccessRule)
  /-- The report callback `sendrpt`. -/
  | sendrpt (msg : MonitorMessage)
  /-- The rule callback `sendRule`. -/
  | sendRule (rules : List CLUSFileAccessRuleReq)
  deriving DecidableEq, Repr

/-- Whether a call arms a path on a driver: an `AddMonitorFile` or `AddMonitorDirFile`. -/
def Call.armedPath : Call → Option String
  | .fanAddMonitorFile path .. => some path
  | .inoAddMonitorFile path _ => some path
  | .fanAddMonitorDirFile path .. => some path
  | .inoAddMonitorDirFile path _ => some path
  | _ => none

/-! ### The state of the monitor -/

/-- Where the flush goroutine (`loop` running `HandleWatchedFiles`) stands.  `batch` holds the
cloned entries the range over `events` has not reached yet; Go ranges over a map in no fixed
order, so a run picks which entry comes next. -/
inductive Flusher where
  /-- Ranging over the cloned batch, or waiting for the next tick when it is empty. -/
  | handling (batch : List (String × FileMod))
  /-- An entry is classified to `event`; `learnFromEvents` waits for the lock. -/
  | learning (batch : List (String × FileMod)) (fmod : FileMod) (pid : Int) (path : String)
      (event : Nat)
  /-- `learnFromEvents` released the lock having read the group's mode and start time. -/
  | sending (batch : List (String × FileMod)) (fmod : FileMod) (pid : Int) (path : String)
      (event : Nat) (mode : String) (startAt : Int)

/-- `FileWatch`: the monitor's own state.  The drivers' tables are not part of it: what they
hold follows from the calls the monitor makes to them. -/
structure FileWatch where
  bEnable : Bool
  aufs : Bool
  fileEvents : AList (fun _ : String => FileMod)
  groups : AList (fun _ : Int => GroupInfo)
  /-- The records handed to the drivers, by address. -/
  heap : RecId → FileInfoExt
  /-- The first address no record uses. -/
  nextRec : RecId
  flusher : Flusher
  estRuleSrc : String → String → Bool → String

/-- The `FileWatch` `NewFileWatcher` makes: no pending event, no group, no record, and the flush
goroutine waiting for its first tick. -/
def FileWatch.init (bEnable aufs : Bool) (estRuleSrc : String → String → Bool → String) :
    FileWatch :=
  ⟨bEnable, aufs, ∅, ∅, fun _ => default, 0, .handling [], estRuleSrc⟩

/-- A monitor that is enabled, as `NewFileWatcher` makes it, with an `EstimateRuleSrc` that
names no group. -/
def enabledWatch : FileWatch :=
  FileWatch.init true false fun _ _ _ => ""

end Fsmon
