import Fsmon.Lifecycle
import Fsmon.Pipeline
import Fsmon.Rules

/-!
# Where the processes of a report come from

A report of the monitor names a process only when a driver reported it.  The `ProcInfo`s of a
pending entry are those `cbNotify` merged into it, a swap hands the entries to the flush
unchanged, the flush carries one of them to `learnFromEvents`, and `sendMsg` builds its reports
from that entry's processes.  So every process the monitor holds in an entry, pending, in the
flush's batch or carried by it, was notified by a driver on that entry's path
(`procsNotified_run`), and every report of a run is the process alert of an `alert` call, a
report with no process, or names a process a driver notified before the report on a host path of
the container and path the report is about (`reports_name_notified_processes`).  A report of
the flush is also about a container that a `StartWatch` of the run started, at the time the flush
counts the first minute from, and a report about a file the runtime writes is never for a plain
access and comes at least a minute after that start (`flush_reports_follow_start`).

The same holds of the rules the monitor learns.  The learning section learns the process paths of
the entry the flush carries, so every rule pending in a group, and every rule `reportLearningRules`
hands to the controller, names the path of a process a driver notified on a host path of the
rule's container that a customer filter with the rule's key matches
(`sent_rules_name_notified_processes`): the monitor never allows a process it has not seen.
-/

namespace Fsmon

/-- A driver notified an access of the process `pi` on the host path `p`. -/
def Notified (ops : List AggOp) (p : String) (pi : ProcInfo) : Prop :=
  ∃ mask params, AggOp.notify p mask params (some pi) ∈ ops

/-- The entry the flush carries to `learnFromEvents`, with the container and the path it
reports. -/
def Flusher.carried : Flusher → Option (FileMod × Int × String)
  | .learning _ fmod pid path _ | .sending _ fmod pid path .. => some (fmod, pid, path)
  | .handling _ => none

/-- The learned rule `(r, k, q)` was seen: `q` is not empty, and a driver notified a process
with the path `q` on a host path of the container `r` that a customer filter with the key `k`
matches. -/
def RuleSeen (P : Platform) (ops : List AggOp) (t : Int × String × String) : Prop :=
  t.2.2 ≠ "" ∧ ∃ p pi flt, (P.parseContainerFilePath p).1 = t.1 ∧ Notified ops p pi ∧
    pi.path = t.2.2 ∧ flt.customerAdd = true ∧ filterIndexKey flt = t.2.1 ∧
    filterPathMatch P (P.parseContainerFilePath p).2 flt = true

theorem Notified.mono {ops ops' : List AggOp} {p : String} {pi : ProcInfo}
    (h : Notified ops p pi) (hops : ops ⊆ ops') :
  Notified ops' p pi
  := let ⟨mask, params, hm⟩ := h; ⟨mask, params, hops hm⟩

theorem RuleSeen.mono {P : Platform} {ops ops' : List AggOp} {t : Int × String × String}
    (h : RuleSeen P ops t) (hops : ops ⊆ ops') :
  RuleSeen P ops' t
  := let ⟨hq, p, pi, flt, hr, hn, rest⟩ := h; ⟨hq, p, pi, flt, hr, hn.mono hops, rest⟩

/-! ### The processes of a pending entry -/

theorem mem_of_mem_firstPerPid {pi : ProcInfo} {l : List ProcInfo} (h : pi ∈ firstPerPid l) :
  pi ∈ l
  := by
  induction l with
  | nil => exact h
  | cons q l ih =>
    rcases List.mem_cons.1 h with rfl | h
    · exact List.mem_cons_self _ _
    · exact List.mem_cons_of_mem _ (ih (List.mem_of_mem_filter h))

theorem notify_mem_of_acceptedOn {p : String} {ops : List AggOp} {mask : Nat} {params : RecId}
    {pInfo : Option ProcInfo} (h : (mask, params, pInfo) ∈ acceptedOn p ops) :
  AggOp.notify p mask params pInfo ∈ ops
  := by
  induction ops with
  | nil => exact absurd h (List.not_mem_nil _)
  | cons op ops ih =>
    cases op with
    | notify q mask' params' pInfo' =>
      rw [acceptedOn, List.mem_append] at h
      rcases h with h | h
      · split_ifs at h with hq
        · obtain ⟨rfl, rfl, rfl⟩ := Prod.mk.inj_iff.1 (List.mem_singleton.1 h)
          rw [hq.1]
          exact List.mem_cons_self _ _
        · exact absurd h (List.not_mem_nil _)
      · exact List.mem_cons_of_mem _ (ih h)
    | swap => exact List.mem_cons_of_mem _ (ih h)
    | cleanup => exact List.mem_cons_of_mem _ (ih h)

theorem mem_of_mem_reverse_takeWhile {α : Type} {q : α → Bool} {l : List α} {x : α}
    (h : x ∈ (l.reverse.takeWhile q).reverse) :
  x ∈ l
  := List.mem_reverse.1 (List.takeWhile_subset q (List.mem_reverse.1 h))

/-- Every process of an entry of the aggregator was notified on the entry's path. -/
theorem notified_of_lookup_aggRun (P : Platform) (ops : List AggOp) {p : String} {fmod : FileMod}
    (h : (aggRun P ops).lookup p = some fmod) :
  ∀ pi ∈ fmod.pInfo, Notified ops p pi
  := by
  rw [aggRun_lookup] at h
  intro pi hpi
  rw [expectedEntry_pInfo P _ p h] at hpi
  obtain ⟨⟨mask, params, pInfo⟩, he, hpi⟩ := List.mem_filterMap.1 (mem_of_mem_firstPerPid hpi)
  cases hpi
  exact ⟨mask, params, mem_of_mem_reverse_takeWhile
    (mem_of_mem_reverse_takeWhile (notify_mem_of_acceptedOn he))⟩

/-! ### The processes the flush holds -/

/-- Every process the monitor holds in an entry was notified by a driver on the entry's path:
pending, in the flush's batch, or carried by the flush under the container and path of its host
path. -/
structure ProcsNotified (P : Platform) (ops : List AggOp) (w : FileWatch) : Prop where
  pending : ∀ p fmod, w.fileEvents.lookup p = some fmod → ∀ pi ∈ fmod.pInfo, Notified ops p pi
  batch : ∀ e ∈ w.flusher.batch, ∀ pi ∈ e.2.pInfo, Notified ops e.1 pi
  carried : ∀ fmod pid path, w.flusher.carried = some (fmod, pid, path) →
    ∀ pi ∈ fmod.pInfo, ∃ p, P.parseContainerFilePath p = (pid, path) ∧ Notified ops p pi

namespace FileWatch

/-- Where the entries of the flush after a step come from: each entry of its batch was in the
batch before or is a pending entry a swap cloned, and the entry it carries is the one it carried
or an entry of the batch before, under the container and path of its host path. -/
theorem step_flush_flow (P : Platform) (w : FileWatch) (a : Action) :
  (∀ e ∈ (w.step P a).1.flusher.batch, e ∈ w.flusher.batch ∨ w.fileEvents.lookup e.1 = some e.2) ∧
  ∀ fmod pid path, (w.step P a).1.flusher.carried = some (fmod, pid, path) →
    w.flusher.carried = some (fmod, pid, path) ∨
      ∃ e ∈ w.flusher.batch, e.2 = fmod ∧ P.parseContainerFilePath e.1 = (pid, path)
  := by
  have hsame : ∀ {f : Flusher}, f = w.flusher →
      (∀ e ∈ f.batch, e ∈ w.flusher.batch ∨ w.fileEvents.lookup e.1 = some e.2) ∧
      ∀ fmod pid path, f.carried = some (fmod, pid, path) →
        w.flusher.carried = some (fmod, pid, path) ∨
          ∃ e ∈ w.flusher.batch, e.2 = fmod ∧ P.parseContainerFilePath e.1 = (pid, path) := by
    rintro _ rfl
    exact ⟨fun e he => .inl he, fun _ _ _ h => .inl h⟩
  cases hb : w.bEnable
  · rw [step_of_disabled P w a hb]
    exact hsame rfl
  cases a with
  | swap =>
    rw [step_swap P w hb, handleWatchedFiles_flusher]
    split_ifs
    · exact ⟨fun e he => .inr (lookup_of_mem_cloneEvents he), fun _ _ _ h => by cases h⟩
    · exact hsame rfl
  | classify i host =>
    rw [step_classify P w hb]
    rcases classifyNext_flusher P host w i with ⟨hf, -⟩ | ⟨b, e, hf, he, hnext⟩
    · exact hsame hf
    rw [hf]
    have hbatch : ∀ x ∈ b.eraseIdx i, x ∈ (Flusher.handling b).batch ∨
        w.fileEvents.lookup x.1 = some x.2 := fun x hx => .inl (List.mem_of_mem_eraseIdx hx)
    rcases hnext with hn | ⟨-, hn⟩ <;> rw [hn]
    · exact ⟨hbatch, fun _ _ _ h => by cases h⟩
    · exact ⟨hbatch, fun _ _ _ h => by cases h; exact .inr ⟨e, List.get?_mem he, rfl, rfl⟩⟩
  | learn =>
    rw [step_learn P w hb]
    rcases learnNext_flusher P w with hn | ⟨b, fmod, pid, path, event, hf, hn | ⟨mode, startAt, hn⟩⟩
    · exact hsame hn
    all_goals
      rw [hn, hf]
      refine ⟨fun e he => .inl he, fun _ _ _ h => ?_⟩
    · cases h
    · exact .inl h
  | send now =>
    rw [step_send P w hb]
    rcases sendNext_flusher P w now with hn | ⟨b, fmod, pid, path, event, mode, startAt, hf, hn⟩
    · exact hsame hn
    · rw [hn, hf]
      exact ⟨fun e he => .inl he, fun _ _ _ h => by cases h⟩
  | _ =>
    simp only [step_flusher_of_not_flushes, Action.flushes]
    exact hsame rfl

/-- A step keeps every process of the flush notified, given that the pending entries it reaches
have notified processes. -/
theorem procsNotified_step (P : Platform) (w : FileWatch) (a : Action) {ops ops' : List AggOp}
    (h : ProcsNotified P ops w) (hops : ops ⊆ ops')
    (hpend : ∀ p fmod, (w.step P a).1.fileEvents.lookup p = some fmod →
      ∀ pi ∈ fmod.pInfo, Notified ops' p pi) :
  ProcsNotified P ops' (w.step P a).1
  := by
  obtain ⟨hbatch, hcarried⟩ := step_flush_flow P w a
  refine ⟨hpend, fun e he pi hpi => ?_, fun fmod pid path hc pi hpi => ?_⟩
  · rcases hbatch e he with he | he
    · exact (h.batch e he pi hpi).mono hops
    · exact (h.pending _ _ he pi hpi).mono hops
  · rcases hcarried fmod pid path hc with hc | ⟨e, he, rfl, hp⟩
    · obtain ⟨p, hp, hn⟩ := h.carried fmod pid path hc pi hpi
      exact ⟨p, hp, hn.mono hops⟩
    · exact ⟨e.1, hp, (h.batch e he pi hpi).mono hops⟩

theorem collect_append {α : Type} (P : Platform) (f : FileWatch → Action → List α) (w : FileWatch)
    (as bs : List Action) :
  w.collect P f (as ++ bs) = w.collect P f as ++ (w.run P as).1.collect P f bs
  := by
  induction as generalizing w with
  | nil => rfl
  | cons a as ih => simp [collect, ih, run_cons]

/-- Every state a run reaches holds only processes that drivers notified along the run. -/
theorem procsNotified_run (P : Platform) (bEnable aufs : Bool)
    (estRuleSrc : String → String → Bool → String) (as : List Action) :
  ProcsNotified P ((FileWatch.init bEnable aufs estRuleSrc).collect P aggOpsOf as)
    ((FileWatch.init bEnable aufs estRuleSrc).run P as).1
  := by
  have hpend : ∀ as p fmod,
      ((FileWatch.init bEnable aufs estRuleSrc).run P as).1.fileEvents.lookup p = some fmod →
      ∀ pi ∈ fmod.pInfo,
        Notified ((FileWatch.init bEnable aufs estRuleSrc).collect P aggOpsOf as) p pi := by
    intro as p fmod h
    rw [run_fileEvents] at h
    exact notified_of_lookup_aggRun P _ h
  induction as using List.reverseRecOn with
  | nil =>
    exact ⟨hpend [], fun _ h => absurd h (List.not_mem_nil _), fun _ _ _ h => by cases h⟩
  | append_singleton as a ih =>
    have hrun : ((FileWatch.init bEnable aufs estRuleSrc).run P (as ++ [a])).1 =
        (((FileWatch.init bEnable aufs estRuleSrc).run P as).1.step P a).1 := by
      rw [run_append]
      rfl
    rw [hrun]
    refine procsNotified_step P _ a ih ?_ (hrun ▸ hpend (as ++ [a]))
    rw [collect_append]
    exact List.subset_append_left _ _

/-! ### The processes of a report -/

theorem mem_procMessages {msg m : MonitorMessage} {prev : Option ProcInfo} {pInfo : List ProcInfo}
    (h : msg ∈ procMessages m prev pInfo) :
  ∃ pi ∈ pInfo, msg = procMessage m pi
  := by
  induction pInfo generalizing prev with
  | nil => exact absurd h (List.not_mem_nil _)
  | cons q pInfo ih =>
    rw [procMessages, List.mem_append] at h
    rcases h with h | h
    · split_ifs at h
      · exact absurd h (List.not_mem_nil _)
      · exact ⟨q, List.mem_cons_self _ _, List.mem_singleton.1 h⟩
    · obtain ⟨pi, hpi, rfl⟩ := ih h
      exact ⟨pi, List.mem_cons_of_mem _ hpi, rfl⟩

/-- A report of `sendMsg` names no process, or one of the entry's processes. -/
theorem mem_sendMsg (P : Platform) (w : FileWatch) {cid path : String} {event : Nat}
    {pInfo : List ProcInfo} {msg : MonitorMessage} (h : msg ∈ w.sendMsg P cid path event pInfo) :
  msg.NoProc ∨ ∃ pi ∈ pInfo, ∃ m, msg = procMessage m pi
  := by
  unfold sendMsg at h
  split at h
  · exact absurd h (List.not_mem_nil _)
  · split_ifs at h
    · rw [List.mem_singleton.1 h]
      exact .inl ⟨rfl, rfl, rfl, rfl, rfl, rfl, rfl, rfl, rfl⟩
    · exact .inr ((mem_procMessages h).imp fun pi ⟨hpi, hm⟩ => ⟨hpi, _, hm⟩)

theorem mem_reportEvent (P : Platform) (w : FileWatch) {fmod : FileMod} {path : String}
    {event : Nat} {mode : String} {startAt now : Int} {msg : MonitorMessage}
    (h : msg ∈ w.reportEvent P fmod path event mode startAt now) :
  msg.NoProc ∨ ∃ pi ∈ fmod.pInfo, ∃ m, msg = procMessage m pi
  := by
  unfold reportEvent at h
  split_ifs at h
  · exact absurd h (List.not_mem_nil _)
  · exact mem_sendMsg P w h
  · exact absurd h (List.not_mem_nil _)

/-- The reports of one step from a state whose processes are notified: a process alert of an
`alert` call, or a report of the entry the flush carries, with no process or one notified on a
host path of the entry's container and path. -/
theorem sendrpt_step (P : Platform) (w : FileWatch) (a : Action) {ops : List AggOp}
    (h : ProcsNotified P ops w) {msg : MonitorMessage} (hm : .sendrpt msg ∈ (w.step P a).2) :
  (∃ rootPid ppid cid path ppath, a = .alert rootPid ppid cid path ppath ∧
    msg.procPid = ppid ∧ msg.msg = fsNvProtectProcAlert) ∨
  ∃ now b fmod pid path event mode startAt, a = .send now ∧
    w.flusher = .sending b fmod pid path event mode startAt ∧
    (msg.NoProc ∨ ∃ p pi m, P.parseContainerFilePath p = (pid, path) ∧ Notified ops p pi ∧
      msg = procMessage m pi ∧ msg.ReportsProc m pi)
  := by
  obtain ⟨hb, ⟨now, rfl, -⟩ | ⟨rootPid, ppid, cid, path, ppath, rfl, -⟩⟩ := mem_step_sendrpt P w a msg hm
  · rw [step_send P w hb] at hm
    unfold sendNext at hm
    split at hm
    · rename_i b fmod pid path event mode startAt hf
      obtain ⟨msg', hmsg', hmsg⟩ := List.mem_map.1 hm
      cases hmsg
      refine .inr ⟨now, b, fmod, pid, path, event, mode, startAt, rfl, hf,
        (mem_reportEvent P w hmsg').imp id fun ⟨pi, hpi, m, hm'⟩ => ?_⟩
      obtain ⟨p, hp, hn⟩ := h.carried fmod pid path (by rw [hf]; rfl) pi hpi
      exact ⟨p, pi, m, hp, hn, hm', hm' ▸ procMessage_reportsProc m pi⟩
    · exact absurd hm (List.not_mem_nil _)
  · rw [step_alert P w hb] at hm
    obtain ⟨msg', hmsg', hmsg⟩ := List.mem_map.1 hm
    cases hmsg
    unfold sendNVProcessAlert at hmsg'
    split at hmsg'
    · exact absurd hmsg' (List.not_mem_nil _)
    · rw [List.mem_singleton.1 hmsg']
      exact .inl ⟨rootPid, ppid, cid, path, ppath, rfl, rfl, rfl⟩

theorem run_snd (P : Platform) (w : FileWatch) (as : List Action) :
  (w.run P as).2 = w.collect P (fun w a => (w.step P a).2) as
  := by
  induction as generalizing w with
  | nil => rfl
  | cons a as ih => rw [run_cons, ih]; rfl

/-- Where a report of a run from `w₀` comes from: a step of the run that is either an `alert` call,
whose process alert names the alert's process, or a `send` of the flush carrying an entry of a
container and path, whose report names no process or a process that a driver notified, earlier
in the run, on a host path of that container and path: the report carries that process's
fields (`ReportsProc`). -/
def ReportFrom (P : Platform) (w₀ : FileWatch) (as : List Action) (msg : MonitorMessage) : Prop :=
  ∃ pre a post, as = pre ++ a :: post ∧
    ((∃ rootPid ppid cid path ppath, a = .alert rootPid ppid cid path ppath ∧
      msg.procPid = ppid ∧ msg.msg = fsNvProtectProcAlert) ∨
     ∃ now b fmod pid path event mode startAt, a = .send now ∧
      (w₀.run P pre).1.flusher = .sending b fmod pid path event mode startAt ∧
      (msg.NoProc ∨ ∃ p pi m, P.parseContainerFilePath p = (pid, path) ∧
        Notified (w₀.collect P aggOpsOf pre) p pi ∧ msg = procMessage m pi ∧
        msg.ReportsProc m pi))

/-- Every report the monitor sends over a run names a process only when a driver reported it:
it is the process alert of an `alert` call, or a report of the entry the flush carries that names
no process or a process some driver notified, before the report, on a host path of the entry's
container and path. -/
theorem reports_name_notified_processes (P : Platform) (bEnable aufs : Bool)
    (estRuleSrc : String → String → Bool → String) (as : List Action) (msg : MonitorMessage)
    (h : .sendrpt msg ∈ ((FileWatch.init bEnable aufs estRuleSrc).run P as).2) :
  ReportFrom P (FileWatch.init bEnable aufs estRuleSrc) as msg
  := by
  rw [run_snd, mem_collect] at h
  obtain ⟨pre, a, post, rfl, hm⟩ := h
  exact ⟨pre, a, post, rfl, sendrpt_step P _ a (procsNotified_run P bEnable aufs estRuleSrc pre) hm⟩

/-- A process of container 7 that writes `/etc/passwd`. -/
def passwdWriter : ProcInfo :=
  ⟨7, "vi", "/usr/bin/vi", ["vi", "/etc/passwd"], 42, 0, "root", 1, "sh", "/bin/sh", false, false⟩

/-- A write of `/etc/passwd` by `passwdWriter` in container 7, in Evaluate mode, taken by a flush
through to its reports. -/
def passwdWrittenByVi : List Action :=
  [watchFile policyModeEvaluate "/etc/passwd", .notify "/etc/passwd" inModify 0 (some passwdWriter),
   .swap, .classify 0 (liveHost (fun _ => some 1) none), .learn, .send 0]

/-- The report of that write names `passwdWriter`, which the driver notified. -/
theorem passwd_report_names_writer :
  .sendrpt (procMessage ⟨"c", "/etc/passwd", false, "", "", [], 0, 0, "", 0, "", "", "",
      "File was modified.", policyActionViolate⟩ passwdWriter) ∈
    (enabledWatch.run (Platform.single 7) passwdWrittenByVi).2 ∧
  ReportFrom (Platform.single 7) enabledWatch passwdWrittenByVi
    (procMessage ⟨"c", "/etc/passwd", false, "", "", [], 0, 0, "", 0, "", "", "",
      "File was modified.", policyActionViolate⟩ passwdWriter)
  := by
  have h : .sendrpt (procMessage ⟨"c", "/etc/passwd", false, "", "", [], 0, 0, "", 0, "", "", "",
      "File was modified.", policyActionViolate⟩ passwdWriter) ∈
      (enabledWatch.run (Platform.single 7) passwdWrittenByVi).2 := by
    decide
  exact ⟨h, reports_name_notified_processes (Platform.single 7) true false _ _ _ h⟩

/-! ### Reports and the start of a container -/

/-- A report of `learnFromEvents` about a file the runtime writes is never for a plain access,
and comes at least a minute after the start of the container's group. -/
theorem reportEvent_runTimeAdded (P : Platform) (w : FileWatch) {fmod : FileMod} {path : String}
    {event : Nat} {mode : String} {startAt now : Int} {msg : MonitorMessage}
    (h : msg ∈ w.reportEvent P fmod path event mode startAt now)
    (hr : isRunTimeAddedFile (P.join "/root" path) = true) :
  event ≠ fileEventAccessed ∧ runTimeAddedGrace ≤ now - startAt
  := by
  unfold reportEvent at h
  split_ifs at h with h₁
  · exact absurd h (List.not_mem_nil _)
  all_goals
    simp only [hr, Bool.true_and, Bool.or_eq_true, beq_iff_eq, decide_eq_true_eq, not_or,
      not_lt] at h₁
    exact h₁

/-- Where a report of a run from `w₀` comes from, in time: a step of the run that is an `alert`
call, whose report it is, or a `send` of the flush, one of whose reports it is, carrying an entry
of a container that a `StartWatch` of the run started at the time the flush measures from; about
a file the runtime writes, the report is for more than a plain access, and comes at least a
minute after that start. -/
def ReportAfterStart (P : Platform) (w₀ : FileWatch) (as : List Action) (msg : MonitorMessage) :
    Prop :=
  ∃ pre a post, as = pre ++ a :: post ∧
    ((∃ rootPid ppid cid path ppath, a = .alert rootPid ppid cid path ppath ∧
      msg ∈ (w₀.run P pre).1.sendNVProcessAlert rootPid ppid cid path ppath) ∨
     ∃ now b fmod pid path event mode startAt, a = .send now ∧
      (w₀.run P pre).1.flusher = .sending b fmod pid path event mode startAt ∧
      msg ∈ (w₀.run P pre).1.reportEvent P fmod path event mode startAt now ∧
      StartedAt pre pid startAt ∧
      (isRunTimeAddedFile (P.join "/root" path) = true →
        event ≠ fileEventAccessed ∧ runTimeAddedGrace ≤ now - startAt))

/-- Every report the monitor sends over a run is an alert, or a report of the flush about an entry
of a container that a `StartWatch` of the run started at the time the flush measures from; a
report about a file the runtime writes (`/etc/hosts`, `/etc/hostname`, `/etc/resolv.conf`) is
never for a plain access, and comes at least a minute after that start. -/
theorem flush_reports_follow_start (P : Platform) (bEnable aufs : Bool)
    (estRuleSrc : String → String → Bool → String) (as : List Action) (msg : MonitorMessage)
    (h : .sendrpt msg ∈ ((FileWatch.init bEnable aufs estRuleSrc).run P as).2) :
  ReportAfterStart P (FileWatch.init bEnable aufs estRuleSrc) as msg
  := by
  rw [run_snd, mem_collect] at h
  obtain ⟨pre, a, post, rfl, hm⟩ := h
  refine ⟨pre, a, post, rfl, ?_⟩
  obtain ⟨hb, ⟨now, rfl, -⟩ | ⟨rootPid, ppid, cid, path, ppath, rfl, -⟩⟩ := mem_step_sendrpt P _ a msg hm
  · rw [step_send P _ hb] at hm
    unfold sendNext at hm
    split at hm
    · rename_i b fmod pid path event mode startAt hf
      obtain ⟨msg', hmsg', hmsg⟩ := List.mem_map.1 hm
      cases hmsg
      exact .inr ⟨now, b, fmod, pid, path, event, mode, startAt, rfl, hf, hmsg',
        startedAt_of_sending_run P bEnable aufs estRuleSrc pre hf,
        reportEvent_runTimeAdded P _ hmsg'⟩
    · exact absurd hm (List.not_mem_nil _)
  · rw [step_alert P _ hb] at hm
    obtain ⟨msg', hmsg', hmsg⟩ := List.mem_map.1 hm
    cases hmsg
    exact .inl ⟨rootPid, ppid, cid, path, ppath, rfl, hmsg'⟩

/-- The report of the write of `/etc/passwd` by `vi` comes from the flush, about container 7,
which the run's first step started. -/
theorem passwd_report_follows_start :
  .sendrpt (procMessage ⟨"c", "/etc/passwd", false, "", "", [], 0, 0, "", 0, "", "", "",
      "File was modified.", policyActionViolate⟩ passwdWriter) ∈
    (enabledWatch.run (Platform.single 7) passwdWrittenByVi).2 ∧
  ReportAfterStart (Platform.single 7) enabledWatch passwdWrittenByVi
    (procMessage ⟨"c", "/etc/passwd", false, "", "", [], 0, 0, "", 0, "", "", "",
      "File was modified.", policyActionViolate⟩ passwdWriter)
  := by
  have h : .sendrpt (procMessage ⟨"c", "/etc/passwd", false, "", "", [], 0, 0, "", 0, "", "", "",
      "File was modified.", policyActionViolate⟩ passwdWriter) ∈
      (enabledWatch.run (Platform.single 7) passwdWrittenByVi).2 := by
    decide
  exact ⟨h, flush_reports_follow_start (Platform.single 7) true false _ _ _ h⟩

/-! ### The processes of a learned rule -/

/-- A step from a state whose processes are notified keeps every pending rule seen: a rule it
inserts is learned from the processes of the entry the flush carries, on that entry's path. -/
theorem ruleSeen_step (P : Platform) (w : FileWatch) (a : Action) {ops : List AggOp}
    (h : ProcsNotified P ops w) (hseen : ∀ t ∈ pendingRules w.groups, RuleSeen P ops t) :
  ∀ t ∈ pendingRules (w.step P a).1.groups, RuleSeen P ops t
  := by
  intro t ht
  by_cases hold : t ∈ pendingRules w.groups
  · exact hseen t hold
  obtain ⟨-, b, fmod, path, event, grp, hf, -, -, -, flt, -, hc, hm, hk, s, -, hq, -, hpi⟩ :=
    inserts_of_mem_insertedBy P w a (show t ∈ w.insertedBy P a by simp [insertedBy, ht, hold])
  obtain ⟨pi, hpi, hpq⟩ := List.mem_map.1 hpi
  obtain ⟨p, hp, hn⟩ := h.carried fmod t.1 path (by rw [hf]; rfl) pi hpi
  exact ⟨hq, p, pi, flt, by rw [hp], hn, hpq, hc, hk.symm, by rw [hp]; exact hm⟩

/-- Every rule pending in a state a run reaches was seen along the run. -/
theorem ruleSeen_run (P : Platform) (bEnable aufs : Bool)
    (estRuleSrc : String → String → Bool → String) (as : List Action) :
  ∀ t ∈ pendingRules ((FileWatch.init bEnable aufs estRuleSrc).run P as).1.groups,
    RuleSeen P ((FileWatch.init bEnable aufs estRuleSrc).collect P aggOpsOf as) t
  := by
  induction as using List.reverseRecOn with
  | nil => exact fun t ht => absurd ht (List.not_mem_nil t)
  | append_singleton as a ih =>
    have hrun : ((FileWatch.init bEnable aufs estRuleSrc).run P (as ++ [a])).1 =
        (((FileWatch.init bEnable aufs estRuleSrc).run P as).1.step P a).1 := by
      rw [run_append]
      rfl
    have hops : (FileWatch.init bEnable aufs estRuleSrc).collect P aggOpsOf as ⊆
        (FileWatch.init bEnable aufs estRuleSrc).collect P aggOpsOf (as ++ [a]) := by
      rw [collect_append]
      exact List.subset_append_left _ _
    rw [hrun]
    exact fun t ht =>
      (ruleSeen_step P _ a (procsNotified_run P bEnable aufs estRuleSrc as) ih t ht).mono hops

/-- Every rule the monitor hands to the controller over a run names a process it saw: it goes out
at a tick of the `learnTicker`, under the name of the group of a container, for a process path
that a driver notified, before the tick, on a host path of that container that a customer filter
with the rule's key matches. -/
theorem sent_rules_name_notified_processes (P : Platform) (bEnable aufs : Bool)
    (estRuleSrc : String → String → Bool → String) (as : List Action)
    (req : CLUSFileAccessRuleReq)
    (h : req ∈ sentRules ((FileWatch.init bEnable aufs estRuleSrc).run P as).2) :
  ∃ pre post r grp, as = pre ++ .report :: post ∧
    ((FileWatch.init bEnable aufs estRuleSrc).run P pre).1.groups.lookup r = some grp ∧
    grp.profile.group = req.groupName ∧
    RuleSeen P ((FileWatch.init bEnable aufs estRuleSrc).collect P aggOpsOf pre)
      (r, req.filter, req.path)
  := by
  rw [sentRules_run, mem_collect] at h
  obtain ⟨pre, a, post, rfl, hm⟩ := h
  obtain ⟨⟨r, k, q⟩, ht, rfl⟩ := List.mem_map.1 hm
  unfold deliveredBy at ht
  split_ifs at ht with hr
  · have ha : a = .report := by
      simp only [Bool.and_eq_true] at hr
      cases a <;> simp [Action.isReport] at hr ⊢
    obtain ⟨grp, hg, -⟩ := (mem_pendingRules _ _ _ _).1 ht
    exact ⟨pre, post, r, grp, by rw [ha], hg, by simp [ruleReq, hg],
      ruleSeen_run P bEnable aufs estRuleSrc pre _ ht⟩
  · exact absurd ht (List.not_mem_nil _)

/-- Container 7 learns `cat` from its read of `/etc/passwd`; once the flush has sent the read's
reports, the next tick of the `learnTicker` hands the rule to the controller, from that read. -/
theorem cat_rule_sent_from_its_read :
  (⟨"g", "/etc/passwd/", "/usr/bin/cat"⟩ : CLUSFileAccessRuleReq) ∈
      sentRules (enabledWatch.run (Platform.single 7) (learnCat ++ [.send 0, .report])).2 ∧
  ∃ pre post r grp, learnCat ++ [.send 0, .report] = pre ++ .report :: post ∧
    (enabledWatch.run (Platform.single 7) pre).1.groups.lookup r = some grp ∧
    grp.profile.group = "g" ∧
    RuleSeen (Platform.single 7) (enabledWatch.collect (Platform.single 7) aggOpsOf pre)
      (r, "/etc/passwd/", "/usr/bin/cat")
  := by
  have h : (⟨"g", "/etc/passwd/", "/usr/bin/cat"⟩ : CLUSFileAccessRuleReq) ∈
      sentRules (enabledWatch.run (Platform.single 7) (learnCat ++ [.send 0, .report])).2 := by
    decide
  exact ⟨h, sent_rules_name_notified_processes (Platform.single 7) true false _ _ _ h⟩

end FileWatch

end Fsmon
