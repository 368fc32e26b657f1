import Fsmon.Drivers

/-!
# The classifier

The range body of `HandleWatchedFiles` up to `learnFromEvents`: for a live container it stats
the entry's path and classifies the entry, by `handleDirEvents` when the entry's record or the
path is a directory and by `handleFileEvents` otherwise.  Classifying may write through the
entry's record (its hash, mode and path), allocate the records of new files, and arm or disarm
paths, and the event it gives is `0` or one `sendMsg` has a message for (`classifyEntry_spec`).

An entry of a child of a watched directory carries the directory's record, so the hash
`handleDirEvents` compares with is the last one stored by any child of that directory.
-/

namespace Fsmon

namespace FileWatch

/-- `handleFileEvents`: the event of an entry of a single-file target. -/
def handleFileEvents (host : Host) (w : FileWatch) (fmod : FileMod) (info : Option Nat)
    (fullPath : String) : Nat × FileWatch × List Call :=
  let r := w.heap fmod.finfo
  match info with
  | some mode =>
    if fmod.mask &&& inodeMovedMask != 0 then (fileEventMovedTo, w, w.addFile true fmod.finfo)
    else if fmod.mask &&& inAttrib != 0 then
      (fileEventAttr, w.setRec fmod.finfo { r with fileMode := mode }, [])
    else if fmod.mask &&& (inAccess ||| inCloseWrite ||| inModify) != 0 then
      let byMask := if fmod.mask &&& (inCloseWrite ||| inModify) != 0 then fileEventModified
        else fileEventAccessed
      match host.getFileHash fullPath with
      | some hash =>
        if hash != r.hash then
          if !hashZero r.hash then (fileEventModified, w.setRec fmod.finfo { r with hash }, [])
          else (byMask, w.setRec fmod.finfo { r with hash }, [])
        else (fileEventAccessed, w, [])
      | none => (byMask, w, [])
    else (0, w, [])
  | none =>
    if fmod.mask &&& inodeMovedMask != 0 then (fileEventMovedFrom, w, [])
    else (fileEventRemoved, w, removeFile fullPath)

/-- The kind of a new symbolic link: `fileEventDirSymCreate` when `os.Stat` of its target,
resolved under the container's root or next to the link, is a directory. -/
def symlinkEvent (P : Platform) (host : Host) (fullPath : String) (pid : Int) : Nat :=
  match host.readlink fullPath with
  | some linkTo =>
    let linkTo := if P.isAbs linkTo then P.join ("/proc/" ++ toString pid ++ "/root") linkTo
      else P.join (P.dir fullPath) linkTo
    match host.stat linkTo with
    | some m => if modeIsDir m then fileEventDirSymCreate else fileEventSymCreate
    | none => fileEventSymCreate
  | none => fileEventSymCreate

/-- The tail of `handleDirEvents` that arms a new entry: the files `GetFileInfoExtFromPath`
finds under the path become records of the entry's container, each keyed by the base name of
the event's path, and the entry's record is armed as a directory with them. -/
def addNewFile (P : Platform) (host : Host) (w : FileWatch) (event : Nat) (fmod : FileMod)
    (fullPath path : String) (pid : Int) : Nat × FileWatch × List Call :=
  let r := w.heap fmod.finfo
  let files := host.getFileInfoExtFromPath pid fullPath r.filter r.protect r.userAdded
  let acc := files.foldl (fun (acc : AList (fun _ : String => RecId) × FileWatch) file =>
      let fresh := acc.2.alloc { file with containerId := r.containerId }
      (acc.1.insert (P.base path) fresh.1, fresh.2)) (∅, w)
  (event, acc.2, acc.2.addDir true fmod.finfo (acc.1.entries.map fun e => (e.1, e.2)))

/-- `handleDirEvents`: the event of an entry whose record or path is a directory, by the
precedence moved-in, created, attribute, content. -/
def handleDirEvents (P : Platform) (host : Host) (w : FileWatch) (fmod : FileMod)
    (info : Option Nat) (fullPath path : String) (pid : Int) : Nat × FileWatch × List Call :=
  let r := w.heap fmod.finfo
  match info with
  | some mode =>
    let bIsDir := modeIsDir mode
    if fmod.mask &&& (inMovedTo ||| inCreate) != 0 then
      if fmod.mask &&& inMovedTo != 0 then
        w.addNewFile P host (if bIsDir then fileEventDirMovedTo else fileEventMovedTo) fmod fullPath
          path pid
      else if bIsDir then
        let w := w.setRec fmod.finfo { r with path := fullPath, fileMode := mode }
        if !r.filter.recursive then (fileEventDirCreate, w, [])
        else w.addNewFile P host fileEventDirCreate fmod fullPath path pid
      else if mode &&& modeSymlink != 0 then
        w.addNewFile P host (symlinkEvent P host fullPath pid) fmod fullPath path pid
      else (fileEventCreate, w, w.addFile false fmod.finfo)
    else if fmod.mask &&& inAttrib != 0 then
      (if bIsDir then fileEventDirAttr else fileEventAttr, w, [])
    else if fmod.mask &&& (inAccess ||| inCloseWrite ||| inModify) != 0 then
      if bIsDir then (fileEventAccessed, w, [])
      else
        match host.getFileHash fullPath with
        | some hash =>
          if hash != r.hash then
            (if !hashZero r.hash then fileEventModified else fileEventAccessed,
              w.setRec fmod.finfo { r with hash }, [])
          else (fileEventAccessed, w, [])
        | none => (if fmod.mask &&& inModify != 0 then fileEventModified else fileEventAccessed, w, [])
    else (0, w, [])
  | none =>
    if fullPath == r.path then (fileEventDirRemoved, w, [])
    else
      (if fmod.mask &&& inodeMovedMask != 0 then
        (if fmod.mask &&& inIsdir != 0 then fileEventDirMovedFrom else fileEventMovedFrom)
       else fileEventRemoved, w, removeFile fullPath)

/-- The range body of `HandleWatchedFiles` up to `learnFromEvents`: nothing for an entry of a
container whose root process is gone, else the event `handleDirEvents` or `handleFileEvents`
classifies it to. -/
def classifyEntry (P : Platform) (host : Host) (w : FileWatch) (fullPath : String)
    (fmod : FileMod) : Nat × FileWatch × List Call :=
  let pp := P.parseContainerFilePath fullPath
  if !host.isPidValid pp.1 then (0, w, [])
  else
    let info := host.lstat fullPath
    if modeIsDir (w.heap fmod.finfo).fileMode || info.any modeIsDir then
      w.handleDirEvents P host fmod info fullPath pp.2 pp.1
    else w.handleFileEvents host fmod info fullPath

/-! ### What classifying does -/

/-- An event `sendMsg` has a message for. -/
def HasEventMsg (event : Nat) : Prop :=
  (fileEventMsg event).isSome

theorem symlinkEvent_hasEventMsg (P : Platform) (host : Host) (fullPath : String) (pid : Int) :
  HasEventMsg (symlinkEvent P host fullPath pid)
  := by
  simp only [symlinkEvent]
  repeat' split
  all_goals rfl

@[simp]
theorem addNewFile_fst (P : Platform) (host : Host) (w : FileWatch) (event : Nat) (fmod : FileMod)
    (fullPath path : String) (pid : Int) :
  (w.addNewFile P host event fmod fullPath path pid).1 = event
  := rfl

theorem addNewFile_frame (P : Platform) (host : Host) (w : FileWatch) (event : Nat)
    (fmod : FileMod) (fullPath path : String) (pid : Int) :
  RecordsOnly w (w.addNewFile P host event fmod fullPath path pid).2.1 ∧
    ∀ c ∈ (w.addNewFile P host event fmod fullPath path pid).2.2, c.toDriver
  := by
  refine ⟨?_, toDriver_of_mem_addDir _ _ _ _⟩
  simp only [addNewFile]
  generalize host.getFileInfoExtFromPath _ _ _ _ _ = files
  have h0 : RecordsOnly w ((∅ : AList (fun _ : String => RecId)), w).2 := .refl w
  generalize ((∅ : AList (fun _ : String => RecId)), w) = acc at h0 ⊢
  induction files generalizing acc with
  | nil => exact h0
  | cons file files ih => exact ih _ (h0.trans (recordsOnly_alloc _ _))

/-- What `handleFileEvents` can do: its event is `0` or one `sendMsg` has a message for, it
writes records only, and it calls the drivers only. -/
theorem handleFileEvents_spec (host : Host) (w : FileWatch) (fmod : FileMod)
    (info : Option Nat) (fullPath : String) :
  ((w.handleFileEvents host fmod info fullPath).1 = 0 ∨
    HasEventMsg (w.handleFileEvents host fmod info fullPath).1) ∧
  RecordsOnly w (w.handleFileEvents host fmod info fullPath).2.1 ∧
    ∀ c ∈ (w.handleFileEvents host fmod info fullPath).2.2, c.toDriver
  := by
  simp only [handleFileEvents]
  repeat' split
  all_goals refine ⟨?_, ?_⟩
  all_goals dsimp only
  all_goals first
    | exact .inl rfl
    | exact .inr rfl
    | exact ⟨.refl w, fun _ h => absurd h (List.not_mem_nil _)⟩
    | exact ⟨recordsOnly_setRec _ _ _, fun _ h => absurd h (List.not_mem_nil _)⟩
    | exact ⟨.refl w, toDriver_of_mem_addFile _ _ _⟩
    | exact ⟨.refl w, toDriver_of_mem_removeFile _⟩

/-- What `handleDirEvents` can do, as `handleFileEvents_spec` says. -/
theorem handleDirEvents_spec (P : Platform) (host : Host) (w : FileWatch) (fmod : FileMod)
    (info : Option Nat) (fullPath path : String) (pid : Int) :
  ((w.handleDirEvents P host fmod info fullPath path pid).1 = 0 ∨
    HasEventMsg (w.handleDirEvents P host fmod info fullPath path pid).1) ∧
  RecordsOnly w (w.handleDirEvents P host fmod info fullPath path pid).2.1 ∧
    ∀ c ∈ (w.handleDirEvents P host fmod info fullPath path pid).2.2, c.toDriver
  := by
  simp only [handleDirEvents]
  repeat' split
  all_goals refine ⟨?_, ?_⟩
  all_goals dsimp only [addNewFile_fst]
  all_goals first
    | exact .inl rfl
    | exact .inr rfl
    | exact .inr (symlinkEvent_hasEventMsg P host fullPath pid)
    | exact ⟨.refl w, fun _ h => absurd h (List.not_mem_nil _)⟩
    | exact ⟨recordsOnly_setRec _ _ _, fun _ h => absurd h (List.not_mem_nil _)⟩
    | exact addNewFile_frame _ _ _ _ _ _ _ _
    | exact ⟨(recordsOnly_setRec _ _ _).trans (addNewFile_frame _ _ _ _ _ _ _ _).1,
        (addNewFile_frame _ _ _ _ _ _ _ _).2⟩
    | exact ⟨.refl w, toDriver_of_mem_addFile _ _ _⟩
    | exact ⟨.refl w, toDriver_of_mem_removeFile _⟩

/-- Classifying an entry: the event is `0`, for nothing to report, or one `sendMsg` has a
message for; it writes records only, and calls the drivers only. -/
theorem classifyEntry_spec (P : Platform) (host : Host) (w : FileWatch) (fullPath : String)
    (fmod : FileMod) :
  ((classifyEntry P host w fullPath fmod).1 = 0 ∨
    HasEventMsg (classifyEntry P host w fullPath fmod).1) ∧
  RecordsOnly w (classifyEntry P host w fullPath fmod).2.1 ∧
    ∀ c ∈ (classifyEntry P host w fullPath fmod).2.2, c.toDriver
  := by
  simp only [classifyEntry]
  split_ifs
  · exact ⟨.inl rfl, .refl w, fun _ h => absurd h (List.not_mem_nil _)⟩
  · exact handleDirEvents_spec _ _ _ _ _ _ _ _
  · exact handleFileEvents_spec _ _ _ _ _

end FileWatch

end Fsmon
