import Fsmon.Types

/-!
# The filter engine

From a profile's filters to the records `StartWatch` arms: `getBaseDirPrefix` and `getRootFs`
choose where the walker starts, `getDirFileList` picks the walked directories and files a filter
selects and builds their records, and `getDirAndFileList` and `getCoreFile` merge the targets of
all filters.  `filterPathMatch` is the other reading of a filter, the one the learning engine
uses to attribute an access to a filter's key.

The two readings differ: `filterPathMatch` compares the filter's path as written, escaped dots
included, where `getDirFileList` first unescapes them (`filterPathMatch_escaped_dot`).  And
`getDirFileList` compares walked paths with the filter's path as a string, so a path with a `.*`
selects nothing under the directory its walk starts from (`wildcard_filter_selects_nothing`).
-/

namespace Fsmon

/-- Modelled from the spec: `share.FileAccessBehaviorMonitor`, the behavior `Monitor`. -/
def fileAccessBehaviorMonitor : String := "Monitor"

/-- `filterIndexKey`: `fmt.Sprintf("%s/%s", filter.Path, filter.Regex)`. -/
def filterIndexKey (filter : CLUSFileMonitorFilter) : String :=
  filter.path ++ "/" ++ filter.regex

/-- `filterPathMatch`: whether learning attributes an access on `path` to the filter. -/
def filterPathMatch (P : Platform) (path : String) (flt : CLUSFileMonitorFilter) : Bool :=
  if flt.regex == "" then flt.path == path
  else
    match P.compile ("^" ++ (P.dir path ++ "/" ++ flt.regex) ++ "$") with
    | some regx => P.regexMatch regx path
    | none => false

/-- `getBaseDirPrefix`: the path with escaped dots unescaped, cut before the `/` of its first
`.*`, and for a filter without a regex its parent directory. -/
def getBaseDirPrefix (P : Platform) (filter : CLUSFileMonitorFilter) : String :=
  let dir := unescapeDots filter.path.data
  let dir := match strIndex ['.', '*'] dir with
    | some index => if index > 0 then dir.take (index - 1) else dir
    | none => dir
  if filter.regex == "" then P.dir (String.mk dir) else String.mk dir

/-- The `Dirs` of the walk request of `getRootFs`: the base prefix of every filter, once. -/
def getRootFsDirs (P : Platform) (profile : CLUSFileMonitorProfile) : List String :=
  (StrSet.ofList ((profile.filters ++ profile.filtersCRD).map (getBaseDirPrefix P))).elems

/-! ### `getDirFileList` -/

/-- A directory target under construction: its record and the records appended to its
`Children`. -/
structure DirTarget where
  info : FileInfoExt
  children : List FileInfoExt

/-- The `base` of `getDirFileList`: the filter's path with escaped dots unescaped. -/
def filterBase (filter : CLUSFileMonitorFilter) : String :=
  String.mk (unescapeDots filter.path.data)

/-- The `filterRegex` `getDirFileList` builds for a filter: its key, compiled as `^key$`. -/
def filterRegexOf (P : Platform) (filter : CLUSFileMonitorFilter) : FilterRegex :=
  { path := filterIndexKey filter
    regex := P.compile ("^" ++ filterIndexKey filter ++ "$")
    recursive := filter.recursive }

/-- The record `getDirFileList` builds for a walked path. -/
def targetRecord (P : Platform) (filter : CLUSFileMonitorFilter) (fpath : String) (mode : Nat) :
    FileInfoExt :=
  { containerId := ""
    path := fpath
    fileMode := mode
    link := ""
    hash := 0
    filter := filterRegexOf P filter
    protect := filter.behavior == fileAccessBehaviorBlock
    userAdded := filter.customerAdd }

/-- The `continue`s of the directory loop of `getDirFileList`: whether it keeps a directory. -/
def dirSelects (filter : CLUSFileMonitorFilter) (dir : String) : Bool :=
  let base := filterBase filter
  (dir == base || hasPrefix dir (base ++ "/")) && (filter.recursive || !(dir.length > base.length))

/-- The `continue`s of the file loop of `getDirFileList`: whether it keeps a file. -/
def fileSelects (P : Platform) (filter : CLUSFileMonitorFilter) (file : String) : Bool :=
  let base := filterBase filter
  file == base ||
    (hasPrefix file (base ++ "/") &&
      (match P.compile ("^" ++ (P.dir file ++ "/" ++ filter.regex) ++ "$") with
       | some rgx => P.regexMatch rgx file
       | none => true) &&
      (filter.recursive || P.dir file == base))

/-- `getDirFileList`: the directory targets of a filter, by host path, and its single files.  A
kept file whose parent directory is a kept directory becomes that directory's child. -/
def getDirFileList (P : Platform) (pid : Int) (res : WalkPathResult)
    (filter : CLUSFileMonitorFilter) : AList (fun _ : String => DirTarget) × List FileInfoExt :=
  let dirList := res.dirs.foldl (fun dirList d =>
    if dirSelects filter d.dir then
      let fpath := P.containerFilePath pid d.dir
      dirList.insert fpath ⟨targetRecord P filter fpath d.mode, []⟩
    else dirList) ∅
  res.files.foldl (fun acc f =>
    if fileSelects P filter f.file then
      let fpath := P.containerFilePath pid f.file
      let file := targetRecord P filter fpath f.mode
      match acc.1.lookup (P.dir fpath) with
      | some di => (acc.1.insert (P.dir fpath) { di with children := di.children ++ [file] }, acc.2)
      | none => (acc.1, acc.2 ++ [file])
    else acc) (dirList, [])

/-- `getDirAndFileList`: merge a filter's directory targets into `dirList`, appending the
children of a directory already there, and return the filter's single files. -/
def getDirAndFileList (P : Platform) (pid : Int) (res : WalkPathResult)
    (filter : CLUSFileMonitorFilter) (dirList : AList (fun _ : String => DirTarget)) :
    AList (fun _ : String => DirTarget) × List FileInfoExt :=
  let (dirs, singles) := getDirFileList P pid res filter
  (dirs.entries.foldl (fun dirList e =>
    match dirList.lookup e.2.info.path with
    | some diExist =>
      dirList.insert e.2.info.path { diExist with children := diExist.children ++ e.2.children }
    | none => dirList.insert e.2.info.path e.2) dirList, singles)

/-- `getCoreFile`: walk the container and merge the targets of the profile's filters, then of
its CRD filters; nothing when the walk fails. -/
def getCoreFile (P : Platform) (host : Host) (pid : Int) (profile : CLUSFileMonitorProfile) :
    AList (fun _ : String => DirTarget) × List FileInfoExt :=
  match host.walk pid (getRootFsDirs P profile) with
  | some res =>
    (profile.filters ++ profile.filtersCRD).foldl (fun acc filter =>
      let (dirList, singles) := getDirAndFileList P pid res filter acc.1
      (dirList, acc.2 ++ singles)) (∅, [])
  | none => (∅, [])

/-- `isRunTimeAddedFile`: the files the container runtime writes at start. -/
def isRunTimeAddedFile (path : String) : Bool :=
  hasSuffix path "/root/etc/hosts" || hasSuffix path "/root/etc/hostname" ||
    hasSuffix path "/root/etc/resolv.conf"

/-! ### Learning's reading of a filter against the walker's -/

/-- A customer filter on `/etc/resolv\.conf`, a path written with an escaped dot as the default
filters write it. -/
def resolvConfFilter : CLUSFileMonitorFilter :=
  ⟨fileAccessBehaviorMonitor, "/etc/resolv\\.conf", "", false, true⟩

/-- Whatever the platform, a walk that lists `/etc/resolv.conf` gives `getDirFileList` a single
target for it under `resolvConfFilter`, while `filterPathMatch` does not match the path to the
filter: learning never attributes an access on the file to the filter that watches it. -/
theorem filterPathMatch_escaped_dot (P : Platform) (pid : Int) (mode : Nat) :
  filterPathMatch P "/etc/resolv.conf" resolvConfFilter = false ∧
    (getDirFileList P pid ⟨[], [⟨"/etc/resolv.conf", mode⟩]⟩ resolvConfFilter).2
      = [targetRecord P resolvConfFilter (P.containerFilePath pid "/etc/resolv.conf") mode]
  := by
  have hbase : filterBase resolvConfFilter = "/etc/resolv.conf" := by decide
  constructor
  · rfl
  · simp [getDirFileList, fileSelects, hbase]

/-! ### Filters with a wildcard path -/

/-- The entry of `ImportantFiles` for the users' `.ssh` directories. -/
def sshFilter : CLUSFileMonitorFilter :=
  ⟨fileAccessBehaviorMonitor, "/home/.*/\\.ssh", ".*", false, false⟩

/-- Whatever the platform, the walk of `sshFilter` starts at `/home`, and of a walk that lists
the `.ssh` directory of a user and a file in it, `getDirFileList` selects neither: it compares the
walked paths with the filter's path as a literal string, `.*` included. -/
theorem wildcard_filter_selects_nothing (P : Platform) (pid : Int) (mode : Nat) :
  getBaseDirPrefix P sshFilter = "/home" ∧
    (getDirFileList P pid ⟨[⟨"/home/alice/.ssh", modeDir⟩], [⟨"/home/alice/.ssh/id_rsa", mode⟩]⟩
      sshFilter).1.entries = [] ∧
    (getDirFileList P pid ⟨[⟨"/home/alice/.ssh", modeDir⟩], [⟨"/home/alice/.ssh/id_rsa", mode⟩]⟩
      sshFilter).2 = []
  := by
  have hdir : dirSelects sshFilter "/home/alice/.ssh" = false := by decide
  have hne : ("/home/alice/.ssh/id_rsa" == filterBase sshFilter) = false := by decide
  have hpre : hasPrefix "/home/alice/.ssh/id_rsa" (filterBase sshFilter ++ "/") = false := by
    decide
  have hfile : fileSelects P sshFilter "/home/alice/.ssh/id_rsa" = false := by
    simp only [fileSelects, hne, hpre, Bool.false_and, Bool.false_or]
  refine ⟨rfl, ?_, ?_⟩ <;> simp [getDirFileList, hdir, hfile]

end Fsmon
