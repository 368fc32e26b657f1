import Fsmon.Machine

/-!
# Runs of the monitor

What `StartWatch` arms, and what a flush makes of the entries of watched files, at the classify
step of any state of the monitor.  `StartWatch` arms a target with the record of the first filter
that selects it, so a `Block` filter listed after a `Monitor` filter on the same directory is
lost (`block_filter_lost_by_order`).

The reports of a flushed entry whose event is not dropped are one per pid among the processes
merged into the entry, each naming the first `ProcInfo` of its pid in the order of arrival and
denied exactly when that `ProcInfo` was, or one report without process
(`reportEvent_one_per_pid`).

A content change of a single file, seen by `IN_MODIFY` or `IN_CLOSE_WRITE` with no
attribute change and no move in the same window, is `fileEventModified`
(`classify_content_change_modified`); `handleFileEvents` looks at `IN_ATTRIB` first, so a write
and an attribute change in one window are reported as an attribute change
(`modify_with_attrib_classified_attr`).

The entry of a child of a watched directory carries the directory's record, whose hash is the
last one any child stored: a child closed unchanged after another is reported modified
(`sibling_hash_reports_modified`).  A file created in the directory is armed as the directory
itself, and the files of a directory moved in are keyed by the directory's base name
(`new_child_arms_parent`); a subdirectory created in it writes its path over the directory's
record, so the directory's own removal is reported as a file's (`subdir_create_renames_parent`).
A single file whose inode is deleted and re-created is not armed again
(`deleted_self_not_rearmed`).
-/

namespace Fsmon

namespace FileWatch

/-! ### Content changes of single files -/

theorem mask_content_ne_zero {mask : Nat} (h : mask &&& (inCloseWrite ||| inModify) ≠ 0) :
  mask &&& (inAccess ||| inCloseWrite ||| inModify) ≠ 0
  := by
  rw [Nat.or_assoc, Nat.and_or_distrib_left]
  exact fun h' => h (lor_eq_zero_iff.1 h').2

/-- `handleFileEvents` of a present file whose mask has a write and neither a move nor an
attribute change: `fileEventModified`, when the content hash cannot be computed or differs
from the record's. -/
theorem handleFileEvents_content_modified (host : Host) (w : FileWatch) (fmod : FileMod)
    (fullPath : String) (m : Nat)
    (hmod : fmod.mask &&& (inCloseWrite ||| inModify) ≠ 0)
    (hattr : fmod.mask &&& inAttrib = 0) (hmoved : fmod.mask &&& inodeMovedMask = 0)
    (hhash : ∀ hash, host.getFileHash fullPath = some hash → hash ≠ (w.heap fmod.finfo).hash) :
  (w.handleFileEvents host fmod (some m) fullPath).1 = fileEventModified
  := by
  have hacc := mask_content_ne_zero hmod
  simp only [handleFileEvents, hmoved, hattr, bne_self_eq_false, Bool.false_eq_true, ite_false,
    bne_iff_ne, ne_eq, hacc, not_false_eq_true, ite_true, hmod]
  rcases hh : host.getFileHash fullPath with _ | hash
  · rfl
  · have hne := hhash hash hh
    simp only [hne, not_false_eq_true, ite_true]
    split_ifs <;> rfl

/-- The classify step of a flush, on an entry of a single file that is present: a write with no
attribute change and no move in the window is reported as a modification when the content hash
cannot be computed or differs from the one recorded for the file. -/
theorem classify_content_change_modified (P : Platform) (host : Host) (w : FileWatch) (i : Nat)
    (batch : List (String × FileMod)) (fullPath : String) (fmod : FileMod) (m : Nat)
    (hb : w.bEnable) (hf : w.flusher = .handling batch)
    (hi : batch.get? i = some (fullPath, fmod))
    (hpid : host.isPidValid (P.parseContainerFilePath fullPath).1)
    (hrec : modeIsDir (w.heap fmod.finfo).fileMode = false)
    (hinfo : host.lstat fullPath = some m) (hm : modeIsDir m = false)
    (hmod : fmod.mask &&& (inCloseWrite ||| inModify) ≠ 0)
    (hattr : fmod.mask &&& inAttrib = 0) (hmoved : fmod.mask &&& inodeMovedMask = 0)
    (hhash : ∀ hash, host.getFileHash fullPath = some hash → hash ≠ (w.heap fmod.finfo).hash) :
  (w.step P (.classify i host)).1.flusher =
    .learning (batch.eraseIdx i) fmod (P.parseContainerFilePath fullPath).1
      (P.parseContainerFilePath fullPath).2 fileEventModified
  := by
  have he : (classifyEntry P host w fullPath fmod).1 = fileEventModified := by
    simp only [classifyEntry, hpid, Bool.not_true, Bool.false_eq_true, ite_false, hrec, hinfo,
      Option.any_some, hm, Bool.or_self]
    exact handleFileEvents_content_modified host w fmod fullPath m hmod hattr hmoved hhash
  rw [step_classify P w hb, classifyNext, hf]
  simp only [hi, he]
  rfl

theorem classify_content_change_modified_written :
  let w := { enabledWatch with flusher := .handling [("/etc/passwd", ⟨inModify, 0, 0, []⟩)] }
  (w.step (Platform.single 7) (.classify 0 (liveHost (fun _ => some 1) none))).1.flusher =
    .learning [] ⟨inModify, 0, 0, []⟩ 7 "/etc/passwd" fileEventModified
  := classify_content_change_modified (Platform.single 7) (liveHost (fun _ => some 1) none)
      { enabledWatch with flusher := .handling [("/etc/passwd", ⟨inModify, 0, 0, []⟩)] } 0
      [("/etc/passwd", ⟨inModify, 0, 0, []⟩)] "/etc/passwd" ⟨inModify, 0, 0, []⟩ 0
      rfl rfl rfl rfl rfl rfl rfl (by decide) (by decide) (by decide)
      (fun hash hh => by cases hh; decide)

/-- A write and an attribute change of a watched file in one window, with a content hash that
differs from the record's, never computed: the flush classifies the entry as an attribute
change. -/
theorem modify_with_attrib_classified_attr :
  (enabledWatch.run (Platform.single 7)
    [watchFile policyModeEvaluate "/etc/passwd",
     .notify "/etc/passwd" inModify 0 none,
     .notify "/etc/passwd" inAttrib 0 none,
     .swap,
     .classify 0 (liveHost (fun _ => some 1) none)]).1.flusher =
    .learning [] ⟨inModify ||| inAttrib, 0, 0, []⟩ 7 "/etc/passwd" fileEventAttr
  := rfl

/-! ### The reports of a flushed entry -/

/-- The reports `learnFromEvents` sends for an entry that a swap hands on after any sequence of
callbacks, whose classified event is not `0` and not dropped: the event's process-less `Violate`
report when no accepted event carried a `ProcInfo`, else one per pid among the `ProcInfo`s
accepted on the path in the window, in the order of their first arrival, each naming the first
`ProcInfo` of its pid: its process fields, and the action `Deny` and the denial's message
exactly when that `ProcInfo` was denied. -/
theorem reportEvent_one_per_pid (P : Platform) (host : Host) (w w' : FileWatch)
    (ops : List AggOp) (p : String) (fmod : FileMod) (event : Nat) (path mode : String)
    (startAt now : Int)
    (hentry : (cloneEvents (aggRun P ops)).lookup p = some fmod)
    (hev : event = (classifyEntry P host w' p fmod).1) (hne : event ≠ 0)
    (hrt : (isRunTimeAddedFile (P.join "/root" path) &&
      (event == fileEventAccessed || decide (now - startAt < runTimeAddedGrace))) = false)
    (hmode : (event != fileEventAccessed || mode == policyModeEnforce ||
      mode == policyModeEvaluate) = true) :
  ∃ msg : MonitorMessage,
    msg.action = policyActionViolate ∧ some msg.msg = fileEventMsg event ∧ msg.NoProc ∧
    if (acceptedOn p (afterCleanup (P.parseContainerFilePath p).1 (lastWindow ops))).filterMap
        (·.2.2) = [] then
      w.reportEvent P fmod path event mode startAt now = [msg]
    else
      List.Forall₂ (fun report pi => report.ReportsProc msg pi)
        (w.reportEvent P fmod path event mode startAt now)
        (firstPerPid ((acceptedOn p (afterCleanup (P.parseContainerFilePath p).1
          (lastWindow ops))).filterMap (·.2.2)))
  := by
  have hmsg : HasEventMsg event :=
    hev ▸ (classifyEntry_spec P host w' p fmod).1.resolve_left (hev ▸ hne)
  rw [lookup_cloneEvents, aggRun_lookup] at hentry
  rw [FileWatch.reportEvent, if_neg (by simp [hrt]), if_pos hmode,
    expectedEntry_pInfo P _ p hentry]
  obtain ⟨msg, hsend, hmsg⟩ :=
    sendMsg_eq_map P w _ _ event _ hmsg ((nodup_pid_firstPerPid _).of_map _)
  refine ⟨msg, hmsg.1, hmsg.2.1, hmsg.2.2, ?_⟩
  split_ifs with hl
  · rw [hsend, if_pos ((firstPerPid_eq_nil _).2 hl)]
  · rw [hsend, if_neg (mt (firstPerPid_eq_nil _).1 hl)]
    exact List.forall₂_map_left_iff.2 (List.forall₂_same.2 fun pi _ => procMessage_reportsProc msg pi)

/-- Two reads and a write of `/etc/shadow` in one window: pid 5 is denied a read, then writes,
and pid 6 reads. -/
def shadowAccesses : List AggOp :=
  [.notify "/etc/shadow" inAccess 0 (some (shadowReader true)),
   .notify "/etc/shadow" inModify 0 (some (shadowReader false)),
   .notify "/etc/shadow" inAccess 0 (some { shadowReader false with pid := 6 })]

/-- The entry a swap hands on after `shadowAccesses`. -/
def shadowEntry : FileMod :=
  ⟨inAccess ||| inModify, 0, 0, [shadowReader true, { shadowReader false with pid := 6 }]⟩

theorem reportEvent_one_per_pid_shadow :
  ∃ msg : MonitorMessage,
    msg.action = policyActionViolate ∧ some msg.msg = fileEventMsg fileEventModified ∧
    msg.NoProc ∧
    if (acceptedOn "/etc/shadow" (afterCleanup 7 (lastWindow shadowAccesses))).filterMap
        (·.2.2) = [] then
      enabledWatch.reportEvent (Platform.single 7) shadowEntry "/etc/shadow" fileEventModified
        policyModeEnforce 0 runTimeAddedGrace = [msg]
    else
      List.Forall₂ (fun report pi => report.ReportsProc msg pi)
        (enabledWatch.reportEvent (Platform.single 7) shadowEntry "/etc/shadow" fileEventModified
          policyModeEnforce 0 runTimeAddedGrace)
        (firstPerPid ((acceptedOn "/etc/shadow" (afterCleanup 7
          (lastWindow shadowAccesses))).filterMap (·.2.2)))
  := reportEvent_one_per_pid (Platform.single 7) (liveHost (fun _ => some 1) none) enabledWatch
      enabledWatch shadowAccesses "/etc/shadow" shadowEntry fileEventModified "/etc/shadow"
      policyModeEnforce 0 runTimeAddedGrace (by decide) (by decide) (by decide) (by decide) rfl

/-! ### Arming at `StartWatch` -/

/-- A customer filter with the behavior `behavior` on the directory `/d` and every file in it. -/
def dirFilter (behavior : String) : CLUSFileMonitorFilter :=
  ⟨behavior, "/d", ".*", false, true⟩

/-- `StartWatch` of the container whose root process is 7, in Evaluate mode, with the filters
`filters`, on a host whose walker finds the directory `/d`. -/
def watchDirBy (filters : List CLUSFileMonitorFilter) : Action :=
  .startWatch (liveHost (fun _ => none) (some ⟨[⟨"/d", modeDir⟩], []⟩)) "c" 7
    (groupConf policyModeEvaluate filters) false false 0

/-- A `Monitor` and a `Block` filter on the same directory: `getDirAndFileList` keeps the record
of the filter that comes first, so the directory is armed unprotected when the `Monitor` filter
is listed first, and protected when the `Block` filter is. -/
theorem block_filter_lost_by_order :
  (enabledWatch.step (Platform.single 7)
      (watchDirBy [dirFilter fileAccessBehaviorMonitor, dirFilter fileAccessBehaviorBlock])).2 =
    [.fanSetMode 7 false false false false,
     .fanAddMonitorDirFile "/d" (filterRegexOf (Platform.single 7)
       (dirFilter fileAccessBehaviorMonitor)) false true [] 0,
     .inoAddMonitorDirFile "/d" 0,
     .fanStartMonitor 7] ∧
  (enabledWatch.step (Platform.single 7)
      (watchDirBy [dirFilter fileAccessBehaviorBlock, dirFilter fileAccessBehaviorMonitor])).2 =
    [.fanSetMode 7 false false false false,
     .fanAddMonitorDirFile "/d" (filterRegexOf (Platform.single 7)
       (dirFilter fileAccessBehaviorBlock)) true true [] 0,
     .inoAddMonitorDirFile "/d" 0,
     .fanStartMonitor 7]
  := by decide

/-! ### Children of a watched directory -/

/-- The paths and messages of the reports among some calls. -/
def reportedEvents (calls : List Call) : List (String × String) :=
  calls.filterMap fun
    | .sendrpt msg => some (msg.path, msg.msg)
    | _ => none

/-- `StartWatch` of the container whose root process is 7, in Evaluate mode, with one
recursive-less filter on the directory `/d`, on a host whose walker finds the directory. -/
def watchDir : Action :=
  .startWatch (liveHost (fun _ => none) (some ⟨[⟨"/d", modeDir⟩], []⟩)) "c" 7
    (groupConf policyModeEvaluate [⟨fileAccessBehaviorMonitor, "/d", ".*", false, true⟩])
    false false 0

/-- The files `/d/a` and `/d/b` of the watched directory, with different contents, each opened
for writing and closed unchanged, in two windows: the directory's inotify watch delivers an
`IN_CLOSE_WRITE` for each. -/
def siblingCloseWrites : List Action :=
  let host := liveHost (fun p => if p = "/d/a" then some 1 else some 2) none
  [watchDir,
   .notify "/d/a" inCloseWrite 0 none, .swap, .classify 0 host, .learn, .send 0,
   .notify "/d/b" inCloseWrite 0 none, .swap, .classify 0 host, .learn, .send 0]

/-- The entry of each of `siblingCloseWrites` carries the directory's record, so the second
file is compared with the hash the first stored, and reported as modified although neither
file changed. -/
theorem sibling_hash_reports_modified :
  reportedEvents (enabledWatch.run (Platform.single 7) siblingCloseWrites).2 =
    [("/d/a", "File was accessed."), ("/d/b", "File was modified.")]
  := by decide

/-- A host for the flushes of `/d`: `/d/sub` is a directory in which `GetFileInfoExtFromPath`
finds `files`, `/d/new` a regular file, and nothing else exists. -/
def dirHost (files : List FileInfoExt) : Host :=
  ⟨fun _ => true,
   fun p => if p = "/d/sub" then some modeDir else if p = "/d/new" then some 0 else none,
   fun _ => none, fun _ => none, fun _ => none, fun _ _ _ _ _ => files, fun _ _ => none⟩

/-- Two files of the directory `/d/sub`. -/
def subFiles : List FileInfoExt :=
  [{ (default : FileInfoExt) with path := "/d/sub/x" },
   { (default : FileInfoExt) with path := "/d/sub/y" }]

/-- The flush of a file created in the watched `/d` marks `/d` again, as a file, in place of the
new file; that of a directory with two files moved into `/d` marks `/d` again, with one child,
keyed by the new directory's base name. -/
theorem new_child_arms_parent :
  ((enabledWatch.run (Platform.single 7) [watchDir, .notify "/d/new" inCreate 0 none, .swap]).1.step
      (Platform.single 7) (.classify 0 (dirHost []))).2 =
    [.fanAddMonitorFile "/d" (filterRegexOf (Platform.single 7)
       (dirFilter fileAccessBehaviorMonitor)) false true 0] ∧
  ((enabledWatch.run (Platform.single 7) [watchDir, .notify "/d/sub" inMovedTo 0 none, .swap]).1.step
      (Platform.single 7) (.classify 0 (dirHost subFiles))).2 =
    [.fanAddMonitorDirFile "/d" (filterRegexOf (Platform.single 7)
       (dirFilter fileAccessBehaviorMonitor)) false true [("sub", 2)] 0,
     .inoAddMonitorDirFile "/d" 0]
  := by decide

/-- A subdirectory created in the watched `/d`, up to the sending of its report. -/
def subdirCreated : List Action :=
  [watchDir, .notify "/d/sub" inCreate 0 none, .swap, .classify 0 (dirHost []), .learn, .send 0]

/-- The removal of `/d` itself, up to the sending of its report. -/
def dirRemoved : List Action :=
  [.notify "/d" inDeleteSelf 0 none, .swap, .classify 0 (dirHost []), .learn, .send 0]

/-- The flush of the new subdirectory writes its path over that of the record of `/d`, so the
removal of `/d` that follows is no longer recognised as the directory's own, and is reported as
a file deleted from it; without the subdirectory it is reported as the directory's deletion. -/
theorem subdir_create_renames_parent :
  ((enabledWatch.run (Platform.single 7) subdirCreated).1.heap 0).path = "/d/sub" ∧
  reportedEvents (enabledWatch.run (Platform.single 7) (subdirCreated ++ dirRemoved)).2 =
    [("/d/sub", "Directory was created."), ("/d", "File deleted from watched directory.")] ∧
  reportedEvents (enabledWatch.run (Platform.single 7) (watchDir :: dirRemoved)).2 =
    [("/d", "Directory was deleted.")]
  := by decide

/-! ### Replaced files -/

/-- A watched file whose inode is deleted, with the watch removal that follows, and that is
present again at the flush: the flush makes no call, so the file stays unwatched. -/
theorem deleted_self_not_rearmed :
  (enabledWatch.run (Platform.single 7)
    [watchFile policyModeEvaluate "/etc/passwd",
     .notify "/etc/passwd" inDeleteSelf 0 none,
     .notify "/etc/passwd" inIgnored 0 none,
     .swap,
     .classify 0 (liveHost (fun _ => some 1) none)]).2 =
    [.fanSetMode 7 false false false false,
     .fanAddMonitorFile "/etc/passwd" (filterRegexOf (Platform.single 7) (fileFilter "/etc/passwd"))
       false true 0,
     .inoAddMonitorFile "/etc/passwd" 0,
     .fanStartMonitor 7,
     .fanRemoveMonitorFile "/etc/passwd",
     .inoRemoveMonitorFile "/etc/passwd"]
  := by decide

end FileWatch

end Fsmon
