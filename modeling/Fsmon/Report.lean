import Fsmon.Aggregate
import Fsmon.Learn

/-!
# Reports

The part of `learnFromEvents` after the lock, and `sendMsg`.  An entry's event is dropped for
the files the container runtime writes at start (always for an access, and for anything in the
first minute of the group) and, outside Enforce and Evaluate mode, for a mere access; otherwise
`sendMsg` makes one report per process of the entry that differs from the one before it, a
denied process's report carrying the action `Deny` and the denial's message.
`SendNVProcessAlert` is the other source of reports.

Processes reach `sendMsg` through the aggregator, which keeps the first `ProcInfo` of each pid
on a path.  So an entry's reports hold a denial for a pid exactly when the first `ProcInfo` of
that pid accepted on the path in the window was denied (`reportEvent_deny_iff`), and a denial
that follows another event of the same pid on the path is lost (`deny_merged_away`).  Their
pids are distinct, so the loop skips none of them: `sendMsg` makes exactly one report per process
(`sendMsg_eq_map`).
-/

namespace Fsmon

/-! ### `sendMsg` -/

/-- The report of one process: the event's report with the process's fields, and for a process
whose access was denied, the action `Deny` and the message of `fileEventDenied`. -/
def procMessage (msg : MonitorMessage) (pi : ProcInfo) : MonitorMessage :=
  let msg := { msg with
    procName := pi.name, procPath := pi.path, procCmds := pi.cmds, procPid := pi.pid,
    procEUid := pi.eUid, procEUser := pi.eUser, procPPid := pi.pPid, procPName := pi.pName,
    procPPath := pi.pPath }
  if pi.deny then
    { msg with action := policyActionDeny, msg := (fileEventMsg fileEventDenied).getD "" }
  else msg

/-- A report that names no process: the one `sendMsg` makes for an entry with no `ProcInfo`. -/
def MonitorMessage.NoProc (msg : MonitorMessage) : Prop :=
  msg.procName = "" ∧ msg.procPath = "" ∧ msg.procCmds = [] ∧ msg.procPid = 0 ∧
    msg.procEUid = 0 ∧ msg.procEUser = "" ∧ msg.procPPid = 0 ∧ msg.procPName = "" ∧
    msg.procPPath = ""

/-- The report `msg` names the process `pi` in the event's report `m`: it keeps the container,
path, package and group of `m`, carries the nine process fields of `pi`, and has the action
`Deny` and the denial's message when `pi` was denied, those of `m` otherwise. -/
structure MonitorMessage.ReportsProc (msg m : MonitorMessage) (pi : ProcInfo) : Prop where
  event : msg.id = m.id ∧ msg.path = m.path ∧ msg.package = m.package ∧ msg.group = m.group
  proc : msg.procName = pi.name ∧ msg.procPath = pi.path ∧ msg.procCmds = pi.cmds ∧
    msg.procPid = pi.pid ∧ msg.procEUid = pi.eUid ∧ msg.procEUser = pi.eUser ∧
    msg.procPPid = pi.pPid ∧ msg.procPName = pi.pName ∧ msg.procPPath = pi.pPath
  action : msg.action = if pi.deny then policyActionDeny else m.action
  text : msg.msg = if pi.deny then (fileEventMsg fileEventDenied).getD "" else m.msg

theorem procMessage_reportsProc (m : MonitorMessage) (pi : ProcInfo) :
  (procMessage m pi).ReportsProc m pi
  := by
  unfold procMessage
  split_ifs with hd <;>
    exact ⟨⟨rfl, rfl, rfl, rfl⟩, ⟨rfl, rfl, rfl, rfl, rfl, rfl, rfl, rfl, rfl⟩, by simp [hd],
      by simp [hd]⟩

/-- The fields `ReportsProc` names are all a report has: `procMessage` is the one report that
names `pi` in `m`. -/
theorem reportsProc_iff {msg m : MonitorMessage} {pi : ProcInfo} :
  msg.ReportsProc m pi ↔ msg = procMessage m pi
  := by
  refine ⟨fun ⟨he, hp, ha, ht⟩ => ?_, fun h => h ▸ procMessage_reportsProc m pi⟩
  cases msg
  unfold procMessage
  split_ifs with hd <;> simp_all

/-- The loop of `sendMsg` over the processes, `prev` the one before: a report for each process
that differs from the one before it. -/
def procMessages (msg : MonitorMessage) : Option ProcInfo → List ProcInfo → List MonitorMessage
  | _, [] => []
  | prev, pi :: pInfo =>
    (if prev = some pi then [] else [procMessage msg pi]) ++ procMessages msg (some pi) pInfo

/-- `sendMsg`: the reports of an event on a path, none for an event kind `fileEventMsg` does not
know.  A `fileMod` with no process has a nil `pInfo`, which gets one report without process. -/
def FileWatch.sendMsg (P : Platform) (w : FileWatch) (cid path : String) (event : Nat)
    (pInfo : List ProcInfo) : List MonitorMessage :=
  match fileEventMsg event with
  | none => []
  | some eventMsg =>
    let msg : MonitorMessage :=
      { id := cid, path, package := P.isPackageLib path, procName := "", procPath := "",
        procCmds := [], procPid := 0, procEUid := 0, procEUser := "", procPPid := 0,
        procPName := "", procPPath := "",
        group := w.estRuleSrc cid path (event == fileEventDenied), msg := eventMsg,
        action := policyActionViolate }
    if pInfo = [] then [msg] else procMessages msg none pInfo

/-- The loop of `sendMsg` skips no process of a list with no two neighbours alike. -/
theorem procMessages_of_chain (msg : MonitorMessage) (p : ProcInfo) (pInfo : List ProcInfo)
    (h : List.Chain (· ≠ ·) p pInfo) :
  procMessages msg (some p) pInfo = pInfo.map (procMessage msg)
  := by
  induction pInfo generalizing p with
  | nil => rfl
  | cons q pInfo ih =>
    obtain ⟨hpq, h⟩ := List.chain_cons.1 h
    rw [procMessages, if_neg (fun h => hpq (Option.some.inj h)), ih q h]
    rfl

theorem procMessages_none_of_nodup (msg : MonitorMessage) (pInfo : List ProcInfo)
    (h : pInfo.Nodup) :
  procMessages msg none pInfo = pInfo.map (procMessage msg)
  := by
  cases pInfo with
  | nil => rfl
  | cons q pInfo =>
    rw [procMessages, if_neg (by simp), procMessages_of_chain msg q pInfo h.chain]
    rfl

/-- `sendMsg` of an event it knows, on processes no two alike: the event's process-less
`Violate` report when there is no process, else one report per process, in order, each
`procMessage` of that report. -/
theorem sendMsg_eq_map (P : Platform) (w : FileWatch) (cid path : String) (event : Nat)
    (pInfo : List ProcInfo) (hmsg : (fileEventMsg event).isSome) (hnd : pInfo.Nodup) :
  ∃ msg : MonitorMessage,
    w.sendMsg P cid path event pInfo = (if pInfo = [] then [msg] else pInfo.map (procMessage msg)) ∧
    msg.action = policyActionViolate ∧ some msg.msg = fileEventMsg event ∧ msg.NoProc
  := by
  obtain ⟨eventMsg, he⟩ := Option.isSome_iff_exists.1 hmsg
  simp only [FileWatch.sendMsg, he]
  split_ifs
  · exact ⟨_, rfl, rfl, rfl, rfl, rfl, rfl, rfl, rfl, rfl, rfl, rfl, rfl⟩
  · exact ⟨_, procMessages_none_of_nodup _ pInfo hnd, rfl, rfl, rfl, rfl, rfl, rfl, rfl, rfl, rfl,
      rfl, rfl⟩

/-! ### The tail of `learnFromEvents` -/

/-- The path a report names for a record with a link: the link, cut after the container root
when `/root/` occurs in it past its first character. -/
def linkPath (link : String) : String :=
  match strIndex "/root/".data link.data with
  | some index => if index > 0 then String.mk (link.data.drop (index + 5)) else link
  | none => link

/-- `time.Duration(time.Second*60)`, in nanoseconds. -/
def runTimeAddedGrace : Int := 60 * 1000000000

/-- The tail of `learnFromEvents` after the lock, with the group's `mode` and `startAt` read
under it and the time `now`, in nanoseconds: the reports of the entry. -/
def FileWatch.reportEvent (P : Platform) (w : FileWatch) (fmod : FileMod) (path : String)
    (event : Nat) (mode : String) (startAt now : Int) : List MonitorMessage :=
  if isRunTimeAddedFile (P.join "/root" path) &&
      (event == fileEventAccessed || decide (now - startAt < runTimeAddedGrace)) then []
  else if event != fileEventAccessed || mode == policyModeEnforce || mode == policyModeEvaluate then
    let r := w.heap fmod.finfo
    w.sendMsg P r.containerId (if r.link != "" then linkPath r.link else path) event fmod.pInfo
  else []

/-- `fsNvProtectProcAlert`. -/
def fsNvProtectProcAlert : String := "NV.Protect: Process alert"

/-- `SendNVProcessAlert`: a `Deny` report of a process of a watched container, nothing for a
container without a group. -/
def FileWatch.sendNVProcessAlert (w : FileWatch) (rootPid ppid : Int) (cid path ppath : String) :
    List MonitorMessage :=
  match w.groups.lookup rootPid with
  | none => []
  | some grp =>
    [{ id := cid, path, package := false, procName := "", procPath := path, procCmds := [],
       procPid := ppid, procEUid := 0, procEUser := "", procPPid := ppid, procPName := "",
       procPPath := ppath, group := grp.profile.group, msg := fsNvProtectProcAlert,
       action := policyActionDeny }]

/-- Past the first minute of its group, an event other than an access is reported whatever the
mode. -/
theorem reportEvent_of_ne_accessed (P : Platform) (w : FileWatch) (fmod : FileMod)
    (path : String) (event : Nat) (mode : String) (startAt now : Int)
    (hev : event ≠ fileEventAccessed) (hgrace : runTimeAddedGrace ≤ now - startAt) :
  w.reportEvent P fmod path event mode startAt now =
    let r := w.heap fmod.finfo
    w.sendMsg P r.containerId (if r.link != "" then linkPath r.link else path) event fmod.pInfo
  := by
  have hlt : ¬ now - startAt < runTimeAddedGrace := not_lt.2 hgrace
  rw [FileWatch.reportEvent, if_neg (by simp [hev, hlt]), if_pos (by simp [hev])]

/-! ### Denials in the reports -/

/-- A process of pid 5 of the container whose root process is 7 reading `/etc/shadow`, with the
verdict `deny`. -/
def shadowReader (deny : Bool) : ProcInfo :=
  ⟨7, "cat", "/usr/bin/cat", ["cat", "/etc/shadow"], 5, 0, "root", 1, "sh", "/bin/sh", deny,
    false⟩

/-- A report of a denial to the process `x`. -/
def MonitorMessage.DeniesPid (m : MonitorMessage) (x : Int) : Prop :=
  m.action = policyActionDeny ∧ m.msg = "File access was denied." ∧ m.procPid = x

theorem fileEventMsg_denied :
  fileEventMsg fileEventDenied = some "File access was denied."
  := rfl

theorem procMessage_deniesPid (msg : MonitorMessage) (pi : ProcInfo) (x : Int)
    (h : msg.action = policyActionViolate) :
  (procMessage msg pi).DeniesPid x ↔ pi.deny = true ∧ pi.pid = x
  := by
  unfold procMessage MonitorMessage.DeniesPid
  cases pi.deny
  · simp [h, policyActionViolate, policyActionDeny]
  · simp [fileEventMsg_denied]

/-- A process skipped by the loop of `sendMsg` equals the one before it, whose report is made:
the loop reports what some process of the list reports. -/
theorem exists_procMessages (msg : MonitorMessage) (Q : MonitorMessage → Prop)
    (prev : Option ProcInfo) (pInfo : List ProcInfo) :
  ((∃ m ∈ procMessages msg prev pInfo, Q m) ∨ ∃ p, prev = some p ∧ Q (procMessage msg p)) ↔
    ((∃ pi ∈ pInfo, Q (procMessage msg pi)) ∨ ∃ p, prev = some p ∧ Q (procMessage msg p))
  := by
  induction pInfo generalizing prev with
  | nil => simp [procMessages]
  | cons pi pInfo ih =>
    have hstep : (∃ m ∈ procMessages msg prev (pi :: pInfo), Q m) ↔
        (prev ≠ some pi ∧ Q (procMessage msg pi)) ∨
          ∃ m ∈ procMessages msg (some pi) pInfo, Q m := by
      simp only [procMessages, List.mem_append]
      split_ifs with hp <;> simp [hp, or_and_right, exists_or]
    have ih' := ih (some pi)
    simp only [Option.some.injEq, exists_eq_left'] at ih'
    rw [hstep]
    simp only [List.mem_cons, exists_eq_or_imp]
    by_cases hp : prev = some pi
    · subst hp
      simp only [Option.some.injEq, exists_eq_left', ne_eq, not_true_eq_false, false_and,
        false_or, ih']
      rw [@or_comm (Q _), or_assoc, or_self]
    · simp only [ne_eq, hp, not_false_eq_true, true_and]
      exact or_congr_left (or_comm.trans (ih'.trans or_comm))

theorem exists_procMessages_none (msg : MonitorMessage) (Q : MonitorMessage → Prop)
    (pInfo : List ProcInfo) :
  (∃ m ∈ procMessages msg none pInfo, Q m) ↔ ∃ pi ∈ pInfo, Q (procMessage msg pi)
  := by
  simpa using exists_procMessages msg Q none pInfo

theorem sendMsg_deniesPid (P : Platform) (w : FileWatch) (cid path : String) (event : Nat)
    (pInfo : List ProcInfo) (x : Int) (hmsg : (fileEventMsg event).isSome) :
  (∃ m ∈ w.sendMsg P cid path event pInfo, m.DeniesPid x) ↔
    ∃ pi ∈ pInfo, pi.deny = true ∧ pi.pid = x
  := by
  obtain ⟨eventMsg, he⟩ := Option.isSome_iff_exists.1 hmsg
  simp only [FileWatch.sendMsg, he]
  split_ifs with hp
  · subst hp
    simp [MonitorMessage.DeniesPid, policyActionViolate, policyActionDeny]
  · rw [exists_procMessages_none]
    exact exists_congr fun pi => and_congr_right fun _ => procMessage_deniesPid _ pi x rfl

/-- `sendMsg` of an event kind it knows makes at least one report. -/
theorem sendMsg_ne_nil (P : Platform) (w : FileWatch) (cid path : String) (event : Nat)
    (pInfo : List ProcInfo) (hmsg : (fileEventMsg event).isSome) :
  w.sendMsg P cid path event pInfo ≠ []
  := by
  obtain ⟨eventMsg, he⟩ := Option.isSome_iff_exists.1 hmsg
  simp only [FileWatch.sendMsg, he]
  split_ifs with hp
  · simp
  · obtain ⟨pi, ps, rfl⟩ := List.exists_cons_of_ne_nil hp
    simp [procMessages]

/-- The first `ProcInfo` of each pid holds a denial for `x` exactly when the first `ProcInfo`
of pid `x` is denied. -/
theorem exists_firstPerPid_deny (ps : List ProcInfo) (x : Int) :
  (∃ pi ∈ firstPerPid ps, pi.deny = true ∧ pi.pid = x) ↔
    (ps.find? (·.pid == x)).any (·.deny)
  := by
  induction ps with
  | nil => simp [firstPerPid]
  | cons p ps ih =>
    simp only [firstPerPid, List.mem_cons, List.mem_filter, List.find?_cons, exists_eq_or_imp]
    by_cases hx : p.pid = x
    · simp only [hx, beq_self_eq_true, Option.any_some, and_true]
      constructor
      · rintro (h | ⟨pi, ⟨-, hne⟩, -, rfl⟩)
        · exact h
        · simp [hx] at hne
      · exact Or.inl
    · have hb : (p.pid == x) = false := by simpa using hx
      simp only [hx, and_false, false_or, hb, ← ih]
      exact exists_congr fun pi =>
        ⟨fun ⟨⟨hm, _⟩, hd⟩ => ⟨hm, hd⟩,
         fun ⟨hm, hd, hpx⟩ => ⟨⟨hm, by simp [hpx, Ne.symm hx]⟩, hd, hpx⟩⟩

/-- The reports of an entry a swap hands on, when `learnFromEvents` does not drop its event,
hold a denial for the pid `x` exactly when the first `ProcInfo` of pid `x` accepted on the path
in the window was denied. -/
theorem reportEvent_deny_iff (P : Platform) (w : FileWatch) (ops : List AggOp) (p : String)
    (fmod : FileMod) (path : String) (event : Nat) (mode : String) (startAt now x : Int)
    (hentry : (cloneEvents (aggRun P ops)).lookup p = some fmod)
    (hrt : (isRunTimeAddedFile (P.join "/root" path) &&
      (event == fileEventAccessed || decide (now - startAt < runTimeAddedGrace))) = false)
    (hmode : (event != fileEventAccessed || mode == policyModeEnforce ||
      mode == policyModeEvaluate) = true)
    (hmsg : (fileEventMsg event).isSome) :
  (∃ m ∈ w.reportEvent P fmod path event mode startAt now, m.DeniesPid x) ↔
    (((acceptedOn p (afterCleanup (P.parseContainerFilePath p).1 (lastWindow ops))).filterMap
      (·.2.2)).find? (·.pid == x)).any (·.deny)
  := by
  rw [lookup_cloneEvents, aggRun_lookup] at hentry
  rw [FileWatch.reportEvent, if_neg (by simp [hrt]), if_pos hmode,
    sendMsg_deniesPid _ _ _ _ _ _ _ hmsg, expectedEntry_pInfo P _ p hentry]
  exact exists_firstPerPid_deny _ x

theorem reportEvent_deny_iff_shadow :
  (∃ m ∈ enabledWatch.reportEvent (Platform.single 7)
      ⟨inAccess ||| inModify, 0, 0, [shadowReader true]⟩ "/etc/shadow" fileEventModified
      policyModeEnforce 0 runTimeAddedGrace, m.DeniesPid 5) ↔
    (((acceptedOn "/etc/shadow" (afterCleanup 7 (lastWindow
      [.notify "/etc/shadow" inAccess 0 (some (shadowReader true)),
       .notify "/etc/shadow" inModify 0 (some (shadowReader false))]))).filterMap
      (·.2.2)).find? (·.pid == 5)).any (·.deny)
  := reportEvent_deny_iff (Platform.single 7) enabledWatch
      [.notify "/etc/shadow" inAccess 0 (some (shadowReader true)),
       .notify "/etc/shadow" inModify 0 (some (shadowReader false))]
      "/etc/shadow" ⟨inAccess ||| inModify, 0, 0, [shadowReader true]⟩ "/etc/shadow"
      fileEventModified policyModeEnforce 0 runTimeAddedGrace 5 rfl (by decide) rfl rfl

/-- A process of pid 5 that writes a file and is then denied a read of it in the same window:
the entry keeps the first `ProcInfo` of the pid, so the reports of the write, sent in every mode,
hold no denial. -/
theorem deny_merged_away :
  (cloneEvents (aggRun (Platform.single 7)
      [.notify "/etc/shadow" inModify 0 (some (shadowReader false)),
       .notify "/etc/shadow" inAccess 0 (some (shadowReader true))])).lookup "/etc/shadow" =
    some ⟨inModify ||| inAccess, 0, 0, [shadowReader false]⟩ ∧
  enabledWatch.reportEvent (Platform.single 7) ⟨inModify ||| inAccess, 0, 0, [shadowReader false]⟩
    "/etc/shadow" fileEventModified policyModeEnforce 0 runTimeAddedGrace ≠ [] ∧
  ¬ ∃ m ∈ enabledWatch.reportEvent (Platform.single 7)
      ⟨inModify ||| inAccess, 0, 0, [shadowReader false]⟩ "/etc/shadow" fileEventModified
      policyModeEnforce 0 runTimeAddedGrace, m.DeniesPid 5
  := by
  rw [reportEvent_of_ne_accessed _ _ _ _ _ _ _ _ (by decide) (by decide)]
  refine ⟨rfl, sendMsg_ne_nil _ _ _ _ _ _ rfl, ?_⟩
  rw [sendMsg_deniesPid _ _ _ _ fileEventModified _ _ rfl]
  simp [shadowReader]

end Fsmon
