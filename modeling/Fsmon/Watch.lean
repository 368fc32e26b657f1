import Fsmon.Classify
import Fsmon.Report

/-!
# The entry points

`StartWatch` walks a container, arms what the filters of its profile select and makes or
updates the container's group; `UpdateAccessRules` rebuilds a group's access rules;
`ContainerCleanup` drops a container's marks, pending events and group; `reportLearningRules`
hands the learned rules of every group to the controller and empties them.  Each returns the
calls it makes, in order.

What each entry point does to the groups is said once, by a lemma on the group it writes
(`lookup_startWatch`, `lookup_updateAccessRules`, `lookup_cleanupGroups`,
`lookup_reportLearningRules`); what the learned rules become follows from those.
-/

namespace Fsmon

namespace FileWatch

/-! ### `addCoreFile` -/

/-- The `else` of the first loop of `addCoreFile`: a record of the file, in the container,
armed on its own. -/
def addSingle (w : FileWatch) (bIncINotify : Bool) (cid : String) (finfo : FileInfoExt) :
    FileWatch × List Call :=
  let fresh := w.alloc { finfo with containerId := cid }
  (fresh.2, fresh.2.addFile bIncINotify fresh.1)

/-- The first loop of `addCoreFile`: a single file whose directory is a target becomes a child
of the directory, with its filter, unless the runtime writes it; any other is armed on its
own. -/
def addSingleFiles (P : Platform) (w : FileWatch) (bIncINotify : Bool) (cid : String)
    (dirList : AList (fun _ : String => DirTarget)) (singleFiles : List FileInfoExt) :
    AList (fun _ : String => DirTarget) × FileWatch × List Call :=
  singleFiles.foldl (fun (acc : AList (fun _ : String => DirTarget) × FileWatch × List Call)
      finfo =>
    let armed := acc.2.1.addSingle bIncINotify cid finfo
    match acc.1.lookup (P.dir finfo.path) with
    | some di =>
      if !isRunTimeAddedFile finfo.path then
        (acc.1.insert (P.dir finfo.path)
          { di with children := di.children ++ [{ finfo with filter := di.info.filter }] },
          acc.2.1, acc.2.2)
      else (acc.1, armed.1, acc.2.2 ++ armed.2)
    | none => (acc.1, armed.1, acc.2.2 ++ armed.2)) (dirList, w, [])

/-- The records of a directory target's children, in the container, keyed by their base
names. -/
def addChildren (P : Platform) (w : FileWatch) (cid : String) (children : List FileInfoExt) :
    AList (fun _ : String => RecId) × FileWatch :=
  children.foldl (fun (acc : AList (fun _ : String => RecId) × FileWatch) file =>
    let fresh := acc.2.alloc { file with containerId := cid }
    (acc.1.insert (P.base file.path) fresh.1, fresh.2)) (∅, w)

/-- The second loop of `addCoreFile`: each directory target is armed with the records of its
children. -/
def addDirs (P : Platform) (w : FileWatch) (bIncINotify : Bool) (cid : String)
    (dirs : List DirTarget) : FileWatch × List Call :=
  dirs.foldl (fun (acc : FileWatch × List Call) dir =>
    let files := addChildren P acc.1 cid dir.children
    let fresh := files.2.alloc { dir.info with containerId := cid }
    (fresh.2,
      acc.2 ++ fresh.2.addDir bIncINotify fresh.1 (files.1.entries.map fun e => (e.1, e.2))))
    (w, [])

/-- `addCoreFile`: arm the single files, then the directories. -/
def addCoreFile (P : Platform) (w : FileWatch) (bIncINotify : Bool) (cid : String)
    (dirList : AList (fun _ : String => DirTarget)) (singleFiles : List FileInfoExt) :
    FileWatch × List Call :=
  let singles := w.addSingleFiles P bIncINotify cid dirList singleFiles
  let dirs := singles.2.1.addDirs P bIncINotify cid (singles.1.entries.map (·.2))
  (dirs.1, singles.2.2 ++ dirs.2)

/-! ### The entry points -/

/-- `UpdateAccessRules`: the group's access rules become the apps of every customer rule of
`conf`, by key, and the rules go to fanotify.  The group's name is only logged. -/
def updateAccessRules (w : FileWatch) (rootPid : Int) (conf : CLUSFileAccessRule) :
    FileWatch × List Call :=
  if !w.bEnable then (w, [])
  else
    match w.groups.lookup rootPid with
    | none => (w, [])
    | some grp =>
      ({ w with groups := w.groups.insert rootPid { grp with applyRules := applyRulesOf conf } },
        [.fanUpdateAccessRule rootPid conf])

/-- The group `StartWatch` leaves for a container: the existing one with the new profile and
mode, or a new one, started at `now`, with no rule. -/
def startedGroup (entry : Option GroupInfo) (profile : CLUSFileMonitorProfile)
    (bNeuvectorSvc : Bool) (now : Int) : GroupInfo :=
  match entry with
  | some grp => { grp with profile, mode := profile.mode }
  | none => ⟨bNeuvectorSvc, profile, profile.mode, ∅, ∅, now⟩

/-- The profile `StartWatch` keeps: the given one, in Learn mode when it has no mode. -/
def startProfile (profile : CLUSFileMonitorProfile) : CLUSFileMonitorProfile :=
  if profile.mode == "" then { profile with mode := policyModeLearn } else profile

/-- The `access` and `perm` flags `StartWatch` sets fanotify to. -/
def startFlags (aufs : Bool) (rootPid : Int) (mode : String) (capBlock bNeuvectorSvc : Bool) :
    Bool × Bool :=
  if mode == policyModeEnforce && !aufs && capBlock then (false, true)
  else if rootPid == 1 || bNeuvectorSvc then (false, false)
  else (mode == policyModeLearn, false)

/-- `StartWatch`, at the time `now`: the container's targets are armed, and its group is made or
updated, with the access rules of `conf` unless the container is the host or the agent's
own. -/
def startWatch (P : Platform) (host : Host) (w : FileWatch) (id : String) (rootPid : Int)
    (conf : FsmonConfig) (capBlock bNeuvectorSvc : Bool) (now : Int) : FileWatch × List Call :=
  if !w.bEnable then (w, [])
  else if !host.isPidValid rootPid then (w, [])
  else
    let profile := startProfile conf.profile
    let flags := startFlags w.aufs rootPid profile.mode capBlock bNeuvectorSvc
    let core := getCoreFile P host rootPid profile
    let armed := w.addCoreFile P (!bNeuvectorSvc) id core.1 core.2
    let grp := startedGroup (armed.1.groups.lookup rootPid) profile bNeuvectorSvc now
    let w := { armed.1 with groups := armed.1.groups.insert rootPid grp }
    let calls := .fanSetMode rootPid flags.1 flags.2 capBlock bNeuvectorSvc :: armed.2 ++
      [.fanStartMonitor rootPid]
    if bNeuvectorSvc || rootPid == 1 then (w, calls)
    else
      match conf.rule with
      | some rule =>
        let updated := w.updateAccessRules rootPid rule
        (updated.1, calls ++ updated.2)
      | none => (w, calls)

/-- The group `ContainerCleanup` leaves for a container: none when it leaves, else the group
with its rules reset. -/
def cleanupGroups (groups : AList (fun _ : Int => GroupInfo)) (rootPid : Int) (bLeave : Bool) :
    AList (fun _ : Int => GroupInfo) :=
  match groups.lookup rootPid with
  | some grp =>
    if bLeave then groups.erase rootPid
    else groups.insert rootPid { grp with learnRules := ∅, applyRules := ∅ }
  | none => groups

/-- `ContainerCleanup`: the drivers drop the container, and its pending events and group go. -/
def containerCleanup (P : Platform) (w : FileWatch) (rootPid : Int) (bLeave : Bool) :
    FileWatch × List Call :=
  if !w.bEnable then (w, [])
  else
    ({ w with
        fileEvents := cleanupEvents P rootPid w.fileEvents
        groups := cleanupGroups w.groups rootPid bLeave },
      [.fanContainerCleanup rootPid, .inoContainerCleanup rootPid])

/-- `reportLearningRules`: the learned rules of every group go to `sendRule` in one call, when
there are any, and every group that had some is emptied. -/
def reportLearningRules (w : FileWatch) : FileWatch × List Call :=
  let learnRules := w.groups.entries.flatMap fun e => learnedRuleReqs e.2
  ({ w with groups := mapValues takeLearned w.groups },
    if learnRules.length > 0 then [.sendRule learnRules] else [])

/-! ### What arming writes and calls -/

/-- `s` is what arming from `w` leaves: other records, and calls to the drivers only. -/
def ArmsFrom (w : FileWatch) (s : FileWatch × List Call) : Prop :=
  RecordsOnly w s.1 ∧ ∀ c ∈ s.2, c.toDriver

theorem ArmsFrom.append {w w₁ w₂ : FileWatch} {cs₁ cs₂ : List Call}
    (h₁ : ArmsFrom w (w₁, cs₁)) (h₂ : ArmsFrom w₁ (w₂, cs₂)) :
  ArmsFrom w (w₂, cs₁ ++ cs₂)
  := ⟨h₁.1.trans h₂.1, List.forall_mem_append.2 ⟨h₁.2, h₂.2⟩⟩

theorem addSingle_armsFrom (w : FileWatch) (b : Bool) (cid : String) (finfo : FileInfoExt) :
  ArmsFrom w (w.addSingle b cid finfo)
  := ⟨recordsOnly_alloc _ _, toDriver_of_mem_addFile _ _ _⟩

theorem addSingleFiles_armsFrom (P : Platform) (w : FileWatch) (b : Bool) (cid : String)
    (dirList : AList (fun _ : String => DirTarget)) (singleFiles : List FileInfoExt) :
  ArmsFrom w (w.addSingleFiles P b cid dirList singleFiles).2
  := by
  unfold addSingleFiles
  have h0 : ArmsFrom w (dirList, w, ([] : List Call)).2 := ⟨.refl w, by simp⟩
  generalize (dirList, w, ([] : List Call)) = acc at h0 ⊢
  induction singleFiles generalizing acc with
  | nil => exact h0
  | cons finfo fs ih =>
    apply ih
    have ha := h0.append (addSingle_armsFrom acc.2.1 b cid finfo)
    simp only
    split
    · split_ifs
      · exact h0
      · exact ha
    · exact ha

theorem addChildren_recordsOnly (P : Platform) (w : FileWatch) (cid : String)
    (children : List FileInfoExt) :
  RecordsOnly w (addChildren P w cid children).2
  := by
  unfold addChildren
  have h0 : RecordsOnly w ((∅ : AList (fun _ : String => RecId)), w).2 := .refl w
  generalize ((∅ : AList (fun _ : String => RecId)), w) = acc at h0 ⊢
  induction children generalizing acc with
  | nil => exact h0
  | cons file files ih => exact ih _ (h0.trans (recordsOnly_alloc _ _))

theorem addDirs_armsFrom (P : Platform) (w : FileWatch) (b : Bool) (cid : String)
    (dirs : List DirTarget) :
  ArmsFrom w (w.addDirs P b cid dirs)
  := by
  unfold addDirs
  have h0 : ArmsFrom w (w, ([] : List Call)) := ⟨.refl w, by simp⟩
  generalize (w, ([] : List Call)) = acc at h0 ⊢
  induction dirs generalizing acc with
  | nil => exact h0
  | cons dir dirs ih =>
    exact ih _ (h0.append ⟨(addChildren_recordsOnly P _ cid _).trans (recordsOnly_alloc _ _),
      toDriver_of_mem_addDir _ _ _ _⟩)

/-- Arming a container's targets writes records and calls the drivers, nothing else. -/
theorem addCoreFile_armsFrom (P : Platform) (w : FileWatch) (b : Bool) (cid : String)
    (dirList : AList (fun _ : String => DirTarget)) (singleFiles : List FileInfoExt) :
  ArmsFrom w (w.addCoreFile P b cid dirList singleFiles)
  := (addSingleFiles_armsFrom P w b cid dirList singleFiles).append (addDirs_armsFrom P _ b cid _)

/-! ### What the entry points do to the groups -/

theorem lookup_updateAccessRules (w : FileWatch) (rootPid : Int) (conf : CLUSFileAccessRule)
    (r : Int) :
  (w.updateAccessRules rootPid conf).1.groups.lookup r =
    if w.bEnable ∧ r = rootPid then
      (w.groups.lookup r).map ({ · with applyRules := applyRulesOf conf })
    else w.groups.lookup r
  := by
  unfold updateAccessRules
  cases hb : w.bEnable
  · simp
  · rcases hg : w.groups.lookup rootPid with _ | grp
    · by_cases hr : r = rootPid
      · subst hr
        simp [hg]
      · simp [hr]
    · by_cases hr : r = rootPid
      · subst hr
        simp [hg]
      · simp [AList.lookup_insert_ne hr, hr]

theorem lookup_cleanupGroups (groups : AList (fun _ : Int => GroupInfo)) (rootPid : Int)
    (bLeave : Bool) (r : Int) :
  (cleanupGroups groups rootPid bLeave).lookup r =
    if r = rootPid then
      (if bLeave then none
       else (groups.lookup r).map ({ · with learnRules := ∅, applyRules := ∅ }))
    else groups.lookup r
  := by
  rcases hg : groups.lookup rootPid with _ | grp <;> simp only [cleanupGroups, hg]
  · by_cases hr : r = rootPid
    · subst hr
      cases bLeave <;> simp [hg]
    · simp [hr]
  · by_cases hr : r = rootPid
    · subst hr
      cases bLeave <;> simp [hg, AList.lookup_erase]
    · cases bLeave <;> simp [hr, AList.lookup_erase_ne hr, AList.lookup_insert_ne hr]

theorem startWatch_eq (P : Platform) (host : Host) (w : FileWatch) (id : String) (rootPid : Int)
    (conf : FsmonConfig) (capBlock bNeuvectorSvc : Bool) (now : Int) :
  w.startWatch P host id rootPid conf capBlock bNeuvectorSvc now = (w, []) ∨
    ∃ w₁ cs, ArmsFrom w (w₁, cs) ∧ w.bEnable ∧ host.isPidValid rootPid ∧
      let grp := startedGroup (w.groups.lookup rootPid) (startProfile conf.profile) bNeuvectorSvc now
      let w₂ := { w₁ with groups := w.groups.insert rootPid grp }
      let calls := .fanSetMode rootPid
        (startFlags w.aufs rootPid (startProfile conf.profile).mode capBlock bNeuvectorSvc).1
        (startFlags w.aufs rootPid (startProfile conf.profile).mode capBlock bNeuvectorSvc).2
        capBlock bNeuvectorSvc :: cs ++ [.fanStartMonitor rootPid]
      w.startWatch P host id rootPid conf capBlock bNeuvectorSvc now =
        match conf.rule with
        | some rule =>
          if bNeuvectorSvc || rootPid == 1 then (w₂, calls)
          else ((w₂.updateAccessRules rootPid rule).1, calls ++ (w₂.updateAccessRules rootPid rule).2)
        | none => (w₂, calls)
  := by
  by_cases hb : w.bEnable = true
  · by_cases hv : host.isPidValid rootPid = true
    · right
      have ha := addCoreFile_armsFrom P w (!bNeuvectorSvc) id
        (getCoreFile P host rootPid (startProfile conf.profile)).1
        (getCoreFile P host rootPid (startProfile conf.profile)).2
      refine ⟨_, _, ha, hb, hv, ?_⟩
      simp only [startWatch, hb, hv, Bool.not_true, Bool.false_eq_true, ite_false, ha.1.groups]
      rcases conf.rule with _ | rule
      · exact ite_self _
      · rfl
    · left
      simp [startWatch, hv]
  · left
    simp [startWatch, hb]

/-- What `StartWatch` does to the groups: only the container's group changes, into one that
keeps the learned rules it had, and keeps the access rules it had or takes those of `conf`. -/
theorem lookup_startWatch (P : Platform) (host : Host) (w : FileWatch) (id : String)
    (rootPid : Int) (conf : FsmonConfig) (capBlock bNeuvectorSvc : Bool) (now r : Int) :
  (w.startWatch P host id rootPid conf capBlock bNeuvectorSvc now).1.groups.lookup r =
      w.groups.lookup r ∨
    (r = rootPid ∧ ∃ grp,
      (w.startWatch P host id rootPid conf capBlock bNeuvectorSvc now).1.groups.lookup r =
        some grp ∧
      grp.learnRules = ((w.groups.lookup r).map (·.learnRules)).getD ∅ ∧
      (grp.applyRules = ((w.groups.lookup r).map (·.applyRules)).getD ∅ ∨
        ∃ rule, conf.rule = some rule ∧ grp.applyRules = applyRulesOf rule))
  := by
  rcases startWatch_eq P host w id rootPid conf capBlock bNeuvectorSvc now with
    h | ⟨w₁, cs, ha, hb, -, h⟩
  · exact Or.inl (by rw [h])
  rw [h]
  by_cases hr : r = rootPid
  · subst hr
    right
    have hs : ∀ g, (startedGroup g (startProfile conf.profile) bNeuvectorSvc now).learnRules =
        (g.map (·.learnRules)).getD ∅ ∧
        (startedGroup g (startProfile conf.profile) bNeuvectorSvc now).applyRules =
          (g.map (·.applyRules)).getD ∅ := by
      intro g
      cases g <;> exact ⟨rfl, rfl⟩
    rcases hrule : conf.rule with _ | rule
    · exact ⟨rfl, _, AList.lookup_insert _, (hs _).1, Or.inl (hs _).2⟩
    · dsimp only
      split_ifs
      · exact ⟨rfl, _, AList.lookup_insert _, (hs _).1, Or.inl (hs _).2⟩
      · refine ⟨rfl, { startedGroup (w.groups.lookup r) (startProfile conf.profile) bNeuvectorSvc now
          with applyRules := applyRulesOf rule }, ?_, (hs _).1, Or.inr ⟨rule, rfl, rfl⟩⟩
        have hb₁ : w₁.bEnable = true := ha.1.bEnable.trans hb
        rw [lookup_updateAccessRules]
        simp [hb₁]
  · left
    have hne : (w.groups.insert rootPid (startedGroup (w.groups.lookup rootPid)
        (startProfile conf.profile) bNeuvectorSvc now)).lookup r = w.groups.lookup r :=
      AList.lookup_insert_ne hr
    rcases conf.rule with _ | rule
    · exact hne
    · dsimp only
      split_ifs
      · exact hne
      · rw [lookup_updateAccessRules]
        simp [hr, hne]

theorem startWatch_toDriver (P : Platform) (host : Host) (w : FileWatch) (id : String)
    (rootPid : Int) (conf : FsmonConfig) (capBlock bNeuvectorSvc : Bool) (now : Int) :
  ∀ c ∈ (w.startWatch P host id rootPid conf capBlock bNeuvectorSvc now).2, c.toDriver
  := by
  rcases startWatch_eq P host w id rootPid conf capBlock bNeuvectorSvc now with
    h | ⟨w₁, cs, ha, -, -, h⟩
  · simp [h]
  have hcalls : ∀ c ∈ Call.fanSetMode rootPid
      (startFlags w.aufs rootPid (startProfile conf.profile).mode capBlock bNeuvectorSvc).1
      (startFlags w.aufs rootPid (startProfile conf.profile).mode capBlock bNeuvectorSvc).2
      capBlock bNeuvectorSvc :: cs ++ [.fanStartMonitor rootPid], c.toDriver := by
    simp only [List.cons_append, List.forall_mem_cons, List.forall_mem_append, List.mem_singleton,
      forall_eq]
    exact ⟨rfl, ha.2, rfl⟩
  rw [h]
  rcases conf.rule with _ | rule
  · exact hcalls
  · dsimp only
    split_ifs
    · exact hcalls
    · refine List.forall_mem_append.2 ⟨hcalls, ?_⟩
      unfold updateAccessRules
      split_ifs
      · simp
      · split <;> simp [Call.toDriver]

/-- `StartWatch` leaves the pending events and the flush alone. -/
theorem startWatch_frame (P : Platform) (host : Host) (w : FileWatch) (id : String)
    (rootPid : Int) (conf : FsmonConfig) (capBlock bNeuvectorSvc : Bool) (now : Int) :
  (w.startWatch P host id rootPid conf capBlock bNeuvectorSvc now).1.bEnable = w.bEnable ∧
  (w.startWatch P host id rootPid conf capBlock bNeuvectorSvc now).1.fileEvents = w.fileEvents ∧
  (w.startWatch P host id rootPid conf capBlock bNeuvectorSvc now).1.flusher = w.flusher
  := by
  have hu : ∀ (v : FileWatch) rule, (v.updateAccessRules rootPid rule).1.bEnable = v.bEnable ∧
      (v.updateAccessRules rootPid rule).1.fileEvents = v.fileEvents ∧
      (v.updateAccessRules rootPid rule).1.flusher = v.flusher := by
    intro v rule
    unfold updateAccessRules
    split_ifs
    · exact ⟨rfl, rfl, rfl⟩
    · split <;> exact ⟨rfl, rfl, rfl⟩
  rcases startWatch_eq P host w id rootPid conf capBlock bNeuvectorSvc now with
    h | ⟨w₁, cs, ha, -, -, h⟩
  · simp [h]
  rw [h]
  rcases conf.rule with _ | rule
  · exact ⟨ha.1.bEnable, ha.1.fileEvents, ha.1.flusher⟩
  · dsimp only
    split_ifs
    · exact ⟨ha.1.bEnable, ha.1.fileEvents, ha.1.flusher⟩
    · obtain ⟨h1, h2, h3⟩ := hu { w₁ with groups := _ } rule
      exact ⟨h1.trans ha.1.bEnable, h2.trans ha.1.fileEvents, h3.trans ha.1.flusher⟩

theorem lookup_reportLearningRules (w : FileWatch) (r : Int) :
  w.reportLearningRules.1.groups.lookup r = (w.groups.lookup r).map takeLearned
  := by
  simp [reportLearningRules]

end FileWatch

end Fsmon
