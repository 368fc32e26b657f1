import Fsmon.Watch

/-!
# The monitor as a state machine

The monitor's entry points run on the agent's goroutines, the drivers' callbacks on theirs, and
`HandleWatchedFiles` and `reportLearningRules` on the goroutine of `loop`; they share the state
under `FileWatch.mux`.  A step of the model is one critical section with the calls it makes: an
entry point, a callback, or a step of the flush, which takes its batch apart entry by entry
(`Flusher`).  A step that looks at the host is given what the host reports at that moment.

A disabled monitor starts neither its drivers nor `loop`, so a callback or a flush step does
nothing to it.

Every step is said once, by what it does to the parts the results read: the groups
(`lookup_step`), the flush (`step_flusher_cases`), the pending events (`step_fileEvents`, whence
`handleWatchedFiles_batch_spec`: every batch of a run is the aggregator's) and the calls
(`sentRules_step`, `mem_step_sendrpt`).
-/

namespace Fsmon

/-- What happens next to the monitor. -/
inductive Action where
  /-- `StartWatch(id, rootPid, conf, capBlock, bNeuvectorSvc)` at the time `now`. -/
  | startWatch (host : Host) (id : String) (rootPid : Int) (conf : FsmonConfig)
      (capBlock bNeuvectorSvc : Bool) (now : Int)
  /-- `UpdateAccessRules(name, rootPid, conf)`. -/
  | updateAccessRules (rootPid : Int) (conf : CLUSFileAccessRule)
  /-- `ContainerCleanup(rootPid, bLeave)`. -/
  | containerCleanup (rootPid : Int) (bLeave : Bool)
  /-- A driver's `cbNotify(filePath, mask, params, pInfo)`. -/
  | notify (filePath : String) (mask : Nat) (params : RecId) (pInfo : Option ProcInfo)
  /-- fanotify's `SendNVProcessAlert(rootPid, ppid, cid, path, ppath)`. -/
  | alert (rootPid ppid : Int) (cid path ppath : String)
  /-- A tick of `msgTicker`: `HandleWatchedFiles` clones the pending events. -/
  | swap
  /-- The range of `HandleWatchedFiles` classifies the `i`-th entry left in the batch. -/
  | classify (i : Nat) (host : Host)
  /-- The critical section of `learnFromEvents`. -/
  | learn
  /-- The rest of `learnFromEvents`, at the time `now`. -/
  | send (now : Int)
  /-- A tick of `learnTicker`: `reportLearningRules`. -/
  | report

/-- Whether the action is a driver's callback or a step of `loop`, neither of which a disabled
monitor starts. -/
def Action.fromLoop : Action → Bool
  | .startWatch .. | .updateAccessRules .. | .containerCleanup .. => false
  | _ => true

/-- Whether the flush is idle: waiting for its next tick, with nothing left of its batch. -/
def Flusher.idle : Flusher → Bool
  | .handling [] => true
  | _ => false

theorem Flusher.idle_eq_false {f : Flusher} (h : f ≠ .handling []) :
  f.idle = false
  := by
  unfold Flusher.idle
  split
  · exact absurd rfl h
  · rfl

/-- The root process of the entry whose reports the flush is about to send. -/
def Flusher.sendingPid : Flusher → Option Int
  | .sending _ _ pid .. => some pid
  | _ => none

/-- Whether the action is a tick of `learnTicker`. -/
def Action.isReport : Action → Bool
  | .report => true
  | _ => false

/-- The requests a list of calls hands to `sendRule`. -/
def sentRules (calls : List Call) : List CLUSFileAccessRuleReq :=
  calls.flatMap fun
    | .sendRule rules => rules
    | _ => []

theorem sentRules_eq_nil {calls : List Call}
    (h : ∀ c ∈ calls, c.toDriver ∨ ∃ msg, c = .sendrpt msg) :
  sentRules calls = []
  := by
  refine List.flatMap_eq_nil_iff.2 fun c hc => ?_
  rcases h c hc with h | ⟨msg, rfl⟩
  · cases c with
    | sendRule rules => exact absurd h (by simp [Call.toDriver])
    | _ => rfl
  · rfl

/-- Whether the action may write the groups: an entry point, the critical section of
`learnFromEvents`, or `reportLearningRules`. -/
def Action.writesGroups : Action → Bool
  | .startWatch .. | .updateAccessRules .. | .containerCleanup .. | .learn | .report => true
  | _ => false

namespace FileWatch

/-- The clone of `HandleWatchedFiles`, taken when the flush is idle. -/
def handleWatchedFiles (w : FileWatch) : FileWatch :=
  match w.flusher with
  | .handling [] => { w with fileEvents := ∅, flusher := .handling (cloneEvents w.fileEvents) }
  | _ => w

/-- The range of `HandleWatchedFiles` on the `i`-th entry left: the entry is classified, and
an entry with an event goes on to `learnFromEvents`. -/
def classifyNext (P : Platform) (host : Host) (w : FileWatch) (i : Nat) : FileWatch × List Call :=
  match w.flusher with
  | .handling batch =>
    match batch.get? i with
    | some (fullPath, fmod) =>
      let classified := classifyEntry P host w fullPath fmod
      let pp := P.parseContainerFilePath fullPath
      (if classified.1 != 0 then
        { classified.2.1 with
          flusher := .learning (batch.eraseIdx i) fmod pp.1 pp.2 classified.1 }
       else { classified.2.1 with flusher := .handling (batch.eraseIdx i) },
       classified.2.2)
    | none => (w, [])
  | _ => (w, [])

/-- The critical section of `learnFromEvents`: nothing for a container without a group, else
its group learns, and its mode and start time are read. -/
def learnNext (P : Platform) (w : FileWatch) : FileWatch :=
  match w.flusher with
  | .learning batch fmod pid path event =>
    match w.groups.lookup pid with
    | none => { w with flusher := .handling batch }
    | some grp =>
      { w with
        groups := w.groups.insert pid (learnGroup P grp fmod path)
        flusher := .sending batch fmod pid path event grp.mode grp.startAt }
  | _ => w

/-- The rest of `learnFromEvents`, at the time `now`: the entry's reports go to `sendrpt`. -/
def sendNext (P : Platform) (w : FileWatch) (now : Int) : FileWatch × List Call :=
  match w.flusher with
  | .sending batch fmod _ path event mode startAt =>
    ({ w with flusher := .handling batch },
      (w.reportEvent P fmod path event mode startAt now).map .sendrpt)
  | _ => (w, [])

/-- The `learnTicker` case of `loop`, taken between two flushes. -/
def reportNext (w : FileWatch) : FileWatch × List Call :=
  match w.flusher with
  | .handling [] => w.reportLearningRules
  | _ => (w, [])

/-- One step of the monitor, with the calls it makes. -/
def step (P : Platform) (w : FileWatch) (a : Action) : FileWatch × List Call :=
  if a.fromLoop && !w.bEnable then (w, [])
  else
    match a with
    | .startWatch host id rootPid conf capBlock bNeuvectorSvc now =>
      w.startWatch P host id rootPid conf capBlock bNeuvectorSvc now
    | .updateAccessRules rootPid conf => w.updateAccessRules rootPid conf
    | .containerCleanup rootPid bLeave => w.containerCleanup P rootPid bLeave
    | .notify filePath mask params pInfo => w.cbNotify filePath mask params pInfo
    | .alert rootPid ppid cid path ppath =>
      (w, (w.sendNVProcessAlert rootPid ppid cid path ppath).map .sendrpt)
    | .swap => (w.handleWatchedFiles, [])
    | .classify i host => w.classifyNext P host i
    | .learn => (w.learnNext P, [])
    | .send now => w.sendNext P now
    | .report => w.reportNext

/-- A run of steps, with every call made along it. -/
def run (P : Platform) (w : FileWatch) : List Action → FileWatch × List Call
  | [] => (w, [])
  | a :: as =>
    let next := w.step P a
    let rest := next.1.run P as
    (rest.1, next.2 ++ rest.2)

@[simp]
theorem run_nil (P : Platform) (w : FileWatch) :
  w.run P [] = (w, [])
  := rfl

theorem run_cons (P : Platform) (w : FileWatch) (a : Action) (as : List Action) :
  w.run P (a :: as) = ((w.step P a).1.run P as |>.1, (w.step P a).2 ++ ((w.step P a).1.run P as).2)
  := rfl

theorem run_append (P : Platform) (w : FileWatch) (as bs : List Action) :
  w.run P (as ++ bs) = (((w.run P as).1.run P bs).1, (w.run P as).2 ++ ((w.run P as).1.run P bs).2)
  := by
  induction as generalizing w with
  | nil => rfl
  | cons a as ih => simp [run_cons, ih]

/-! ### Each step -/

section Steps

variable (P : Platform) (w : FileWatch)

@[simp]
theorem step_startWatch (host : Host) (id : String) (rootPid : Int) (conf : FsmonConfig)
    (capBlock bNeuvectorSvc : Bool) (now : Int) :
  w.step P (.startWatch host id rootPid conf capBlock bNeuvectorSvc now) =
    w.startWatch P host id rootPid conf capBlock bNeuvectorSvc now
  := rfl

@[simp]
theorem step_updateAccessRules (rootPid : Int) (conf : CLUSFileAccessRule) :
  w.step P (.updateAccessRules rootPid conf) = w.updateAccessRules rootPid conf
  := rfl

@[simp]
theorem step_containerCleanup (rootPid : Int) (bLeave : Bool) :
  w.step P (.containerCleanup rootPid bLeave) = w.containerCleanup P rootPid bLeave
  := rfl

theorem step_of_fromLoop (a : Action) (ha : a.fromLoop) (hb : w.bEnable = false) :
  w.step P a = (w, [])
  := by
  simp [step, ha, hb]

theorem step_notify (hb : w.bEnable) (filePath : String) (mask : Nat) (params : RecId)
    (pInfo : Option ProcInfo) :
  w.step P (.notify filePath mask params pInfo) = w.cbNotify filePath mask params pInfo
  := by
  simp [step, hb, Action.fromLoop]

theorem step_alert (hb : w.bEnable) (rootPid ppid : Int) (cid path ppath : String) :
  w.step P (.alert rootPid ppid cid path ppath) =
    (w, (w.sendNVProcessAlert rootPid ppid cid path ppath).map .sendrpt)
  := by
  simp [step, hb, Action.fromLoop]

theorem step_swap (hb : w.bEnable) :
  w.step P .swap = (w.handleWatchedFiles, [])
  := by
  simp [step, hb, Action.fromLoop]

theorem step_classify (hb : w.bEnable) (i : Nat) (host : Host) :
  w.step P (.classify i host) = w.classifyNext P host i
  := by
  simp [step, hb, Action.fromLoop]

theorem step_learn (hb : w.bEnable) :
  w.step P .learn = (w.learnNext P, [])
  := by
  simp [step, hb, Action.fromLoop]

theorem step_send (hb : w.bEnable) (now : Int) :
  w.step P (.send now) = w.sendNext P now
  := by
  simp [step, hb, Action.fromLoop]

theorem step_report (hb : w.bEnable) :
  w.step P .report = w.reportNext
  := by
  simp [step, hb, Action.fromLoop]

end Steps

/-! ### What the steps of the flush write -/

theorem handleWatchedFiles_frame (w : FileWatch) :
  w.handleWatchedFiles.bEnable = w.bEnable ∧ w.handleWatchedFiles.groups = w.groups
  := by
  unfold handleWatchedFiles
  split <;> exact ⟨rfl, rfl⟩

theorem classifyNext_frame (P : Platform) (host : Host) (w : FileWatch) (i : Nat) :
  (w.classifyNext P host i).1.bEnable = w.bEnable ∧
    (w.classifyNext P host i).1.groups = w.groups ∧
    (w.classifyNext P host i).1.fileEvents = w.fileEvents ∧
    ∀ c ∈ (w.classifyNext P host i).2, c.toDriver
  := by
  unfold classifyNext
  split
  · split
    · next fullPath fmod _ =>
      obtain ⟨-, h, hc⟩ := classifyEntry_spec P host w fullPath fmod
      dsimp only
      split_ifs <;> exact ⟨h.bEnable, h.groups, h.fileEvents, hc⟩
    · simp
  · simp

theorem sendNext_frame (P : Platform) (w : FileWatch) (now : Int) :
  (w.sendNext P now).1.bEnable = w.bEnable ∧ (w.sendNext P now).1.groups = w.groups ∧
    (w.sendNext P now).1.fileEvents = w.fileEvents
  := by
  unfold sendNext
  split <;> exact ⟨rfl, rfl, rfl⟩

theorem reportNext_frame (w : FileWatch) :
  w.reportNext.1.bEnable = w.bEnable ∧ w.reportNext.1.fileEvents = w.fileEvents ∧
    w.reportNext.1.flusher = w.flusher
  := by
  unfold reportNext
  split <;> exact ⟨rfl, rfl, rfl⟩

theorem learnNext_frame (P : Platform) (w : FileWatch) :
  (w.learnNext P).bEnable = w.bEnable ∧ (w.learnNext P).fileEvents = w.fileEvents
  := by
  unfold learnNext
  split
  · split <;> exact ⟨rfl, rfl⟩
  · exact ⟨rfl, rfl⟩

theorem updateAccessRules_frame (w : FileWatch) (rootPid : Int) (conf : CLUSFileAccessRule) :
  (w.updateAccessRules rootPid conf).1.bEnable = w.bEnable ∧
    (w.updateAccessRules rootPid conf).1.fileEvents = w.fileEvents ∧
    (w.updateAccessRules rootPid conf).1.flusher = w.flusher ∧
    ∀ c ∈ (w.updateAccessRules rootPid conf).2, c.toDriver
  := by
  unfold updateAccessRules
  split_ifs
  · simp
  · split <;> simp [Call.toDriver]

/-! ### What a step leaves alone -/

@[simp]
theorem step_bEnable (P : Platform) (w : FileWatch) (a : Action) :
  (w.step P a).1.bEnable = w.bEnable
  := by
  unfold step
  split_ifs
  · rfl
  split
  · exact (startWatch_frame ..).1
  · exact (updateAccessRules_frame ..).1
  · unfold containerCleanup
    split_ifs <;> rfl
  · unfold cbNotify
    split_ifs <;> rfl
  · rfl
  · exact (handleWatchedFiles_frame w).1
  · exact (classifyNext_frame ..).1
  · exact (learnNext_frame ..).1
  · exact (sendNext_frame ..).1
  · exact (reportNext_frame ..).1

theorem run_bEnable (P : Platform) (w : FileWatch) (ops : List Action) :
  (w.run P ops).1.bEnable = w.bEnable
  := by
  induction ops generalizing w with
  | nil => rfl
  | cons a as ih => rw [run_cons, ih, step_bEnable]

/-- A disabled monitor never moves: its entry points return at once, and it has no driver to
call back and no loop. -/
theorem step_of_disabled (P : Platform) (w : FileWatch) (a : Action) (hb : w.bEnable = false) :
  w.step P a = (w, [])
  := by
  cases a <;> simp [step, Action.fromLoop, hb, startWatch, updateAccessRules, containerCleanup]

theorem run_of_disabled (P : Platform) (w : FileWatch) (ops : List Action)
    (hb : w.bEnable = false) :
  w.run P ops = (w, [])
  := by
  induction ops with
  | nil => rfl
  | cons a as ih => rw [run_cons, step_of_disabled P w a hb, ih, List.nil_append]

/-- The states the monitor reaches: those of a run from the one `NewFileWatcher` makes, on any
configuration. -/
def Reachable (P : Platform) (w : FileWatch) : Prop :=
  ∃ bEnable aufs estRuleSrc ops, w = ((FileWatch.init bEnable aufs estRuleSrc).run P ops).1

/-- A reachable monitor that is disabled is still the one `NewFileWatcher` made: it has no
pending event and no group. -/
theorem Reachable.of_disabled {P : Platform} {w : FileWatch} (h : w.Reachable P)
    (hb : w.bEnable = false) :
  w.fileEvents = ∅ ∧ w.groups = ∅
  := by
  obtain ⟨bEnable, aufs, estRuleSrc, ops, rfl⟩ := h
  rw [run_bEnable] at hb
  rw [run_of_disabled P _ ops hb]
  exact ⟨rfl, rfl⟩

/-! ### What a step does to the groups -/

theorem step_groups_of_not_writesGroups (P : Platform) (w : FileWatch) (a : Action)
    (h : a.writesGroups = false) :
  (w.step P a).1.groups = w.groups
  := by
  unfold step
  split_ifs
  · rfl
  split <;> simp [Action.writesGroups] at h
  · unfold cbNotify
    split_ifs <;> rfl
  · rfl
  · exact (handleWatchedFiles_frame w).2
  · exact (classifyNext_frame ..).2.1
  · exact (sendNext_frame ..).2.1

theorem lookup_learnNext (P : Platform) (w : FileWatch) (r : Int) :
  (w.learnNext P).groups.lookup r = w.groups.lookup r ∨
    ∃ b fmod path event grp, w.flusher = .learning b fmod r path event ∧
      w.groups.lookup r = some grp ∧ (w.learnNext P).groups.lookup r = some (learnGroup P grp fmod path)
  := by
  cases hf : w.flusher with
  | handling batch => exact Or.inl (by simp [learnNext, hf])
  | learning b fmod pid path event =>
    rcases hg : w.groups.lookup pid with _ | grp
    · exact Or.inl (by simp [learnNext, hf, hg])
    · by_cases hr : r = pid
      · subst hr
        exact Or.inr ⟨b, fmod, path, event, grp, rfl, hg, by simp [learnNext, hf, hg]⟩
      · exact Or.inl (by simp [learnNext, hf, hg, AList.lookup_insert_ne hr])
  | sending => exact Or.inl (by simp [learnNext, hf])

/-- What a step can do to the group of a container: leave it, start it, update its access rules,
clean it up, learn into it, or take its learned rules. -/
theorem lookup_step (P : Platform) (w : FileWatch) (a : Action) (r : Int) :
  (w.step P a).1.groups.lookup r = w.groups.lookup r ∨
  (∃ host id conf capBlock bNeuvectorSvc now,
    a = .startWatch host id r conf capBlock bNeuvectorSvc now) ∨
  (∃ conf, a = .updateAccessRules r conf ∧
    (w.step P a).1.groups.lookup r = (w.groups.lookup r).map ({ · with applyRules := applyRulesOf conf })) ∨
  (∃ bLeave, a = .containerCleanup r bLeave ∧
    (w.step P a).1.groups.lookup r = if bLeave then none
      else (w.groups.lookup r).map ({ · with learnRules := ∅, applyRules := ∅ })) ∨
  (a = .learn ∧ ∃ b fmod path event grp, w.flusher = .learning b fmod r path event ∧
    w.groups.lookup r = some grp ∧ (w.step P a).1.groups.lookup r = some (learnGroup P grp fmod path)) ∨
  (a = .report ∧ (w.step P a).1.groups.lookup r = (w.groups.lookup r).map takeLearned)
  := by
  cases a with
  | startWatch host id rootPid conf capBlock bNeuvectorSvc now =>
    by_cases hr : r = rootPid
    · subst hr
      exact Or.inr (Or.inl ⟨host, id, conf, capBlock, bNeuvectorSvc, now, rfl⟩)
    · rcases lookup_startWatch P host w id rootPid conf capBlock bNeuvectorSvc now r with h | h
      · exact Or.inl h
      · exact absurd h.1 hr
  | updateAccessRules rootPid conf =>
    rw [step_updateAccessRules]
    by_cases hr : w.bEnable = true ∧ r = rootPid
    · obtain ⟨hb, rfl⟩ := hr
      exact Or.inr (Or.inr (Or.inl ⟨conf, rfl, by simp [lookup_updateAccessRules, hb]⟩))
    · exact Or.inl (by rw [lookup_updateAccessRules, if_neg hr])
  | containerCleanup rootPid bLeave =>
    rw [step_containerCleanup]
    unfold containerCleanup
    split_ifs with hb
    · exact Or.inl rfl
    · by_cases hr : r = rootPid
      · subst hr
        refine Or.inr (Or.inr (Or.inr (Or.inl ⟨bLeave, rfl, ?_⟩)))
        simp [containerCleanup, hb, lookup_cleanupGroups]
      · exact Or.inl (by simp [lookup_cleanupGroups, hr])
  | learn =>
    cases hb : w.bEnable
    · exact Or.inl (by rw [step_of_fromLoop P w _ (by rfl) hb])
    rw [step_learn P w hb]
    rcases lookup_learnNext P w r with h | ⟨b, fmod, path, event, grp, hf, hg, h⟩
    · exact Or.inl h
    · exact Or.inr (Or.inr (Or.inr (Or.inr (Or.inl ⟨rfl, b, fmod, path, event, grp, hf, hg, h⟩))))
  | report =>
    cases hb : w.bEnable
    · exact Or.inl (by rw [step_of_fromLoop P w _ (by rfl) hb])
    rw [step_report P w hb]
    unfold reportNext
    split
    · exact Or.inr (Or.inr (Or.inr (Or.inr (Or.inr ⟨rfl, lookup_reportLearningRules w r⟩))))
    · exact Or.inl rfl
  | notify | alert | swap | classify | send =>
    refine Or.inl ?_
    rw [step_groups_of_not_writesGroups]
    rfl

/-! ### What a step does to the flush -/

/-- A flush comes to send the reports of an entry only by the critical section of
`learnFromEvents`, on an entry of a container that has a group. -/
theorem step_flusher_cases (P : Platform) (w : FileWatch) (a : Action) :
  (w.step P a).1.flusher = w.flusher ∨ (w.step P a).1.flusher.sendingPid = none ∨
    (a = .learn ∧ ∃ b fmod pid path event grp, w.flusher = .learning b fmod pid path event ∧
      w.groups.lookup pid = some grp ∧
      (w.step P a).1.flusher = .sending b fmod pid path event grp.mode grp.startAt)
  := by
  unfold step
  split_ifs
  · exact Or.inl rfl
  split
  · exact Or.inl (startWatch_frame ..).2.2
  · exact Or.inl (updateAccessRules_frame ..).2.2.1
  · unfold containerCleanup
    split_ifs <;> exact Or.inl rfl
  · unfold cbNotify
    split_ifs <;> exact Or.inl rfl
  · exact Or.inl rfl
  · unfold handleWatchedFiles
    split
    · exact Or.inr (Or.inl rfl)
    · exact Or.inl rfl
  · unfold classifyNext
    split
    · split
      · dsimp only
        split_ifs <;> exact Or.inr (Or.inl rfl)
      · exact Or.inl rfl
    · exact Or.inl rfl
  · cases hf : w.flusher with
    | handling batch => exact Or.inl (by simp [learnNext, hf])
    | learning b fmod pid path event =>
      rcases hg : w.groups.lookup pid with _ | grp
      · exact Or.inr (Or.inl (by simp [learnNext, hf, hg, Flusher.sendingPid]))
      · exact Or.inr (Or.inr ⟨rfl, b, fmod, pid, path, event, grp, rfl, hg,
          by simp [learnNext, hf, hg]⟩)
    | sending => exact Or.inl (by simp [learnNext, hf])
  · unfold sendNext
    split
    · exact Or.inr (Or.inl rfl)
    · exact Or.inl rfl
  · exact Or.inl (reportNext_frame w).2.2

/-! ### The calls of a step -/

/-- A step other than a tick of `learnTicker` calls the drivers and `sendrpt` only. -/
theorem step_calls_of_not_isReport (P : Platform) (w : FileWatch) (a : Action)
    (hr : a.isReport = false) :
  ∀ c ∈ (w.step P a).2, c.toDriver ∨ ∃ msg, c = .sendrpt msg
  := by
  have hsendrpt : ∀ (msgs : List MonitorMessage), ∀ c ∈ msgs.map Call.sendrpt,
      c.toDriver ∨ ∃ msg, c = .sendrpt msg := by
    intro msgs c hc
    obtain ⟨m, -, rfl⟩ := List.mem_map.1 hc
    exact Or.inr ⟨m, rfl⟩
  unfold step
  split_ifs
  · simp
  split
  · exact fun c hc => Or.inl (startWatch_toDriver _ _ _ _ _ _ _ _ _ c hc)
  · exact fun c hc => Or.inl ((updateAccessRules_frame _ _ _).2.2.2 c hc)
  · unfold containerCleanup
    split_ifs <;> simp [Call.toDriver]
  · unfold cbNotify
    split_ifs
    · exact fun c hc => Or.inl (toDriver_of_mem_removeFile _ c hc)
    · simp
  · exact hsendrpt _
  · simp
  · exact fun c hc => Or.inl ((classifyNext_frame _ _ _ _).2.2.2 c hc)
  · simp
  · unfold sendNext
    split
    · exact hsendrpt _
    · simp
  · simp [Action.isReport] at hr

/-- Only a tick of `learnTicker` hands rules to `sendRule`: every rule pending in a group, once,
under the group's name. -/
theorem sentRules_step (P : Platform) (w : FileWatch) (a : Action) :
  sentRules (w.step P a).2 =
    if a.isReport && w.bEnable && w.flusher.idle then
      (pendingRules w.groups).map (ruleReq w.groups)
    else []
  := by
  cases hr : a.isReport
  · exact sentRules_eq_nil (step_calls_of_not_isReport P w a hr)
  cases a <;> simp [Action.isReport] at hr
  cases hb : w.bEnable
  · rw [step_of_fromLoop P w _ (by rfl) hb]
    rfl
  rw [step_report P w hb]
  unfold reportNext
  split
  · next hf =>
    simp only [reportLearningRules, reportedRules_eq_map, List.length_map, hf, Flusher.idle,
      Bool.and_self, ite_true]
    split_ifs with hp
    · simp [sentRules]
    · simp [List.eq_nil_of_length_eq_zero (Nat.eq_zero_of_not_pos hp), sentRules]
  · next hf => simp [Flusher.idle_eq_false hf, sentRules]

/-- A report goes to `sendrpt` only from the rest of `learnFromEvents`, for the entry whose
learning the flush has done, or from a process alert of a container that has a group. -/
theorem mem_step_sendrpt (P : Platform) (w : FileWatch) (a : Action) (msg : MonitorMessage)
    (h : .sendrpt msg ∈ (w.step P a).2) :
  w.bEnable ∧ ((∃ now, a = .send now ∧ w.flusher.sendingPid.isSome) ∨
    ∃ rootPid ppid cid path ppath, a = .alert rootPid ppid cid path ppath ∧
      (w.groups.lookup rootPid).isSome)
  := by
  have hnot : ∀ {cs : List Call}, (∀ c ∈ cs, c.toDriver) → .sendrpt msg ∉ cs :=
    fun hcs hm => by simpa [Call.toDriver] using hcs _ hm
  cases hb : w.bEnable
  · cases a
    · exact absurd h (hnot (startWatch_toDriver _ _ _ _ _ _ _ _ _))
    · exact absurd h (hnot (updateAccessRules_frame _ _ _).2.2.2)
    all_goals simp [step, hb, Action.fromLoop, containerCleanup] at h
  cases a with
  | startWatch => exact absurd h (hnot (startWatch_toDriver _ _ _ _ _ _ _ _ _))
  | updateAccessRules => exact absurd h (hnot (updateAccessRules_frame _ _ _).2.2.2)
  | containerCleanup => simp [containerCleanup, hb] at h
  | notify =>
    rw [step_notify P w hb, cbNotify] at h
    split_ifs at h
    · simp [removeFile] at h
    · simp at h
  | alert rootPid ppid cid path ppath =>
    rw [step_alert P w hb] at h
    refine ⟨rfl, Or.inr ⟨rootPid, ppid, cid, path, ppath, rfl, ?_⟩⟩
    unfold sendNVProcessAlert at h
    split at h
    · simp at h
    · next hg => simp [hg]
  | swap => simp [step_swap P w hb] at h
  | classify =>
    rw [step_classify P w hb] at h
    exact absurd h (hnot ((classifyNext_frame _ _ _ _).2.2.2))
  | learn => simp [step_learn P w hb] at h
  | send now =>
    rw [step_send P w hb] at h
    unfold sendNext at h
    split at h
    · next hf => exact ⟨rfl, Or.inl ⟨now, rfl, by simp [hf, Flusher.sendingPid]⟩⟩
    · simp at h
  | report =>
    rw [step_report P w hb] at h
    unfold reportNext reportLearningRules at h
    split at h
    · dsimp only at h
      split_ifs at h <;> simp at h
    · simp at h

/-! ### The pending events of a run -/

/-- The critical sections on `fileEvents` a step takes: a merged callback, a clone, or the loop
of a cleanup. -/
def aggOpsOf (w : FileWatch) : Action → List AggOp
  | .notify q mask params pInfo => if w.bEnable then [.notify q mask params pInfo] else []
  | .swap => if w.bEnable && w.flusher.idle then [.swap] else []
  | .containerCleanup r _ => if w.bEnable then [.cleanup r] else []
  | _ => []

/-- A quantity of every step of a run, in order. -/
def collect {α : Type} (P : Platform) (f : FileWatch → Action → List α) :
    FileWatch → List Action → List α
  | _, [] => []
  | w, a :: as => f w a ++ collect P f (w.step P a).1 as

theorem step_fileEvents (P : Platform) (w : FileWatch) (a : Action) :
  (w.step P a).1.fileEvents = (aggOpsOf w a).foldl (aggStep P) w.fileEvents
  := by
  cases hb : w.bEnable
  · cases a
    · exact (startWatch_frame _ _ _ _ _ _ _ _ _).2.1
    · exact (updateAccessRules_frame _ _ _).2.1
    all_goals simp [step, hb, Action.fromLoop, containerCleanup, aggOpsOf]
  cases a with
  | startWatch => exact (startWatch_frame _ _ _ _ _ _ _ _ _).2.1
  | updateAccessRules => exact (updateAccessRules_frame _ _ _).2.1
  | containerCleanup => simp [containerCleanup, hb, aggOpsOf, aggStep]
  | notify =>
    rw [step_notify P w hb, FileWatch.cbNotify_fileEvents P]
    simp [aggOpsOf, hb]
  | alert => simp [step_alert P w hb, aggOpsOf]
  | swap =>
    rw [step_swap P w hb]
    unfold handleWatchedFiles
    split
    · next hf => simp [aggOpsOf, hb, hf, Flusher.idle, aggStep]
    · next hf => simp [aggOpsOf, Flusher.idle_eq_false hf]
  | classify => simp [step_classify P w hb, (classifyNext_frame _ _ _ _).2.2.1, aggOpsOf]
  | learn => simp [step_learn P w hb, (learnNext_frame _ _).2, aggOpsOf]
  | send => simp [step_send P w hb, (sendNext_frame _ _ _).2.2, aggOpsOf]
  | report => simp [step_report P w hb, (reportNext_frame _).2.1, aggOpsOf]

/-- The pending events of the monitor are those of the aggregator's run its steps take. -/
theorem run_fileEvents (P : Platform) (w : FileWatch) (ops : List Action) :
  (w.run P ops).1.fileEvents = (w.collect P aggOpsOf ops).foldl (aggStep P) w.fileEvents
  := by
  induction ops generalizing w with
  | nil => rfl
  | cons a as ih => simp [run_cons, collect, ih, step_fileEvents]

end FileWatch

/-! ### Inputs of runs -/

/-- A customer filter that monitors one path, with no pattern. -/
def fileFilter (path : String) : CLUSFileMonitorFilter :=
  ⟨fileAccessBehaviorMonitor, path, "", false, true⟩

/-- The configuration of a container of the group `g` in the mode `mode` whose profile has the
filters `filters`, and no access rule. -/
def groupConf (mode : String) (filters : List CLUSFileMonitorFilter) : FsmonConfig :=
  ⟨⟨"g", mode, filters, []⟩, none⟩

/-- A host on which every process is alive, every path a regular file whose content hash is
`hash`, and the walker answers `walk`. -/
def liveHost (hash : String → Option Nat) (walk : Option WalkPathResult) : Host :=
  ⟨fun _ => true, fun _ => some 0, fun _ => none, fun _ => none, hash, fun _ _ _ _ _ => [],
    fun _ _ => walk⟩

/-- `StartWatch` of the container whose root process is 7, in the mode `mode`, with one filter
on `path`, on a host whose walker finds `path` as a regular file. -/
def watchFile (mode path : String) : Action :=
  .startWatch (liveHost (fun _ => none) (some ⟨[], [⟨path, 0⟩]⟩)) "c" 7
    (groupConf mode [fileFilter path]) false false 0

end Fsmon
