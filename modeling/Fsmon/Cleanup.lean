import Fsmon.Flush

/-!
# Cleanup of a container

`ContainerCleanup(r, true)` deletes the group of `r`, and the monitor reports on a container only
through its group: a flush learns into the group before it sends, and a process alert looks the
group up.  From the cleanup until `StartWatch(r)`, the group stays absent (`Silenced`, kept by
every other step, `silenced_step`), so the only reports on `r` are those of the entry the flush
had already learned from when the cleanup was called (`cleanup_silences_reports`), whose events
all came before the cleanup.

In any state the monitor reaches, the cleanup drops exactly the pending events and the group of
`r`, or only the group's rules when the container stays, and nothing of another container
(`containerCleanup_removes_only_container`); a disabled monitor never moves, so it has nothing
pending.

The cleanup leaves the flush alone, and the flush looks at no group before it classifies.  An
entry of `r` cloned before the cleanup is classified after it like any other, and one that a
move re-arms is armed again on the drivers (`classify_rearms_after_cleanup`).
-/

namespace Fsmon

/-- Whether the action is a `StartWatch` of the container `r`. -/
def Action.startsWatch (r : Int) : Action → Bool
  | .startWatch _ _ rootPid .. => rootPid == r
  | _ => false

/-- The container a step reports on: that of the entry whose reports the flush sends, or that of
a process alert. -/
def Action.reportRoot (w : FileWatch) : Action → Option Int
  | .send _ => w.flusher.sendingPid
  | .alert rootPid .. => some rootPid
  | _ => none

namespace FileWatch

/-- What holds from `ContainerCleanup(r, true)` on, for an enabled monitor: `r` has no group, and
the flush sends reports on `r` only while it holds `f₀`, the entry it held at the cleanup. -/
def Silenced (r : Int) (f₀ : Flusher) (w : FileWatch) : Prop :=
  w.bEnable → w.groups.lookup r = none ∧ (w.flusher.sendingPid = some r → w.flusher = f₀)

theorem silenced_containerCleanup (P : Platform) (w : FileWatch) (r : Int) :
  Silenced r w.flusher (w.containerCleanup P r true).1
  := by
  unfold containerCleanup
  split_ifs with hb
  · intro hb'
    simp_all
  · exact fun _ => ⟨by simp [lookup_cleanupGroups], fun _ => rfl⟩

/-- Every step but a `StartWatch` of `r` keeps `r` silenced: the group-writing steps map an
absent group to an absent one, and a flush reaches the reports of an entry only through its
group. -/
theorem silenced_step (P : Platform) (w : FileWatch) (a : Action) (r : Int) (f₀ : Flusher)
    (ha : a.startsWatch r = false) (h : Silenced r f₀ w) :
  Silenced r f₀ (w.step P a).1
  := by
  intro hb'
  obtain ⟨hg, hf⟩ := h ((step_bEnable P w a) ▸ hb')
  constructor
  · rcases lookup_step P w a r with h | ⟨host, id, conf, cb, nv, now, rfl⟩ | ⟨conf, -, h⟩ |
      ⟨bLeave, -, h⟩ | ⟨-, -, -, -, -, grp, -, hg', -⟩ | ⟨-, h⟩
    · rw [h, hg]
    · simp [Action.startsWatch] at ha
    · rw [h, hg]
      rfl
    · rw [h, hg]
      split_ifs <;> rfl
    · simp [hg] at hg'
    · rw [h, hg]
      rfl
  · rcases step_flusher_cases P w a with h | h | ⟨-, _, _, pid, _, _, grp, -, hg', h⟩
    · rw [h]
      exact hf
    · simp [h]
    · intro hs
      simp only [h, Flusher.sendingPid, Option.some.injEq] at hs
      subst hs
      simp [hg] at hg'

theorem silenced_run (P : Platform) (w : FileWatch) (as : List Action) (r : Int) (f₀ : Flusher)
    (has : ∀ a ∈ as, a.startsWatch r = false) (h : Silenced r f₀ w) :
  Silenced r f₀ (w.run P as).1
  := by
  induction as generalizing w with
  | nil => exact h
  | cons a as ih =>
    exact ih _ (fun b hb => has b (List.mem_cons_of_mem a hb))
      (silenced_step P w a r f₀ (has a (List.mem_cons_self a as)) h)

/-- A report on `r` in a silenced state is one of the entry the flush held at the cleanup. -/
theorem silenced_report (P : Platform) (w : FileWatch) (a : Action) (r : Int) (f₀ : Flusher)
    (msg : MonitorMessage) (h : Silenced r f₀ w) (hrpt : .sendrpt msg ∈ (w.step P a).2)
    (hroot : a.reportRoot w = some r) :
  (∃ now, a = .send now) ∧ w.flusher = f₀
  := by
  obtain ⟨hb, hc⟩ := mem_step_sendrpt P w a msg hrpt
  obtain ⟨hg, hf⟩ := h hb
  rcases hc with ⟨now, rfl, -⟩ | ⟨rootPid, _, _, _, _, rfl, hs⟩
  · exact ⟨⟨now, rfl⟩, hf hroot⟩
  · simp only [Action.reportRoot, Option.some.injEq] at hroot
    subst hroot
    simp [hg] at hs

/-- After `ContainerCleanup(r, true)`, and until `StartWatch(r)`, a report on `r` is a report of
the entry the flush held when the cleanup was called, sent by the rest of `learnFromEvents`: no
event that comes after the cleanup is reported. -/
theorem cleanup_silences_reports (P : Platform) (w : FileWatch) (pre mid : List Action) (r : Int)
    (a : Action) (msg : MonitorMessage) (hmid : ∀ b ∈ mid, b.startsWatch r = false)
    (hrpt : .sendrpt msg ∈ ((w.run P (pre ++ .containerCleanup r true :: mid)).1.step P a).2)
    (hroot : a.reportRoot (w.run P (pre ++ .containerCleanup r true :: mid)).1 = some r) :
  (∃ now, a = .send now) ∧
    (w.run P (pre ++ .containerCleanup r true :: mid)).1.flusher = (w.run P pre).1.flusher
  := by
  have hw : (w.run P (pre ++ .containerCleanup r true :: mid)).1 =
      (((w.run P pre).1.containerCleanup P r true).1.run P mid).1 := by
    rw [run_append, run_cons]
    rfl
  rw [hw] at hrpt hroot ⊢
  exact silenced_report P _ a r _ msg
    (silenced_run P _ mid r _ hmid (silenced_containerCleanup P _ r)) hrpt hroot

/-- A write of `/etc/passwd` in container 7, taken by a flush up to the sending of its reports. -/
def passwdWriteLearned : List Action :=
  [watchFile policyModeEvaluate "/etc/passwd", .notify "/etc/passwd" inModify 0 none, .swap,
   .classify 0 (liveHost (fun _ => some 1) none), .learn]

/-- The report of that write, with no process. -/
def passwdModified : MonitorMessage :=
  ⟨"c", "/etc/passwd", false, "", "", [], 0, 0, "", 0, "", "", "", "File was modified.",
    policyActionViolate⟩

theorem cleanup_silences_reports_in_flight :
  .sendrpt passwdModified ∈
    ((enabledWatch.run (Platform.single 7) (passwdWriteLearned ++ [.containerCleanup 7 true])).1.step
      (Platform.single 7) (.send 0)).2 ∧
  (∃ now, Action.send 0 = .send now) ∧
    (enabledWatch.run (Platform.single 7) (passwdWriteLearned ++ [.containerCleanup 7 true])).1.flusher =
      (enabledWatch.run (Platform.single 7) passwdWriteLearned).1.flusher
  := ⟨by decide, cleanup_silences_reports (Platform.single 7) enabledWatch passwdWriteLearned [] 7
      (.send 0) passwdModified (by simp) (by decide) rfl⟩

/-! ### What the cleanup removes -/

/-- `ContainerCleanup(r, bLeave)`, in any enabled state and in any state the monitor reaches,
drops exactly the pending events whose path `ParseContainerFilePath` puts in container `r`, and
the group of `r` when it leaves, else empties only that group's learned and applied rules; every
other pending event and every other group stays as it was.  A disabled monitor returns at once,
and a reachable one has neither. -/
theorem containerCleanup_removes_only_container (P : Platform) (w : FileWatch) (r : Int)
    (bLeave : Bool) (hw : w.bEnable = true ∨ w.Reachable P) :
  (∀ p, (w.containerCleanup P r bLeave).1.fileEvents.lookup p =
      if (P.parseContainerFilePath p).1 = r then none else w.fileEvents.lookup p) ∧
  ∀ r', (w.containerCleanup P r bLeave).1.groups.lookup r' =
    if r' = r then
      (if bLeave then none
       else (w.groups.lookup r').map ({ · with learnRules := ∅, applyRules := ∅ }))
    else w.groups.lookup r'
  := by
  cases hb : w.bEnable
  · obtain ⟨he, hg⟩ := (hw.resolve_left (by simp [hb])).of_disabled hb
    simp [containerCleanup, hb, he, hg]
  · simp only [containerCleanup, hb, Bool.not_true, Bool.false_eq_true, ite_false]
    exact ⟨lookup_cleanupEvents P r w.fileEvents, lookup_cleanupGroups w.groups r bLeave⟩

/-- A write of `/etc/passwd` in container 7, pending in the monitor. -/
def passwdPending : FileWatch :=
  (enabledWatch.run (Platform.single 7)
    [watchFile policyModeEvaluate "/etc/passwd", .notify "/etc/passwd" inModify 0 none]).1

theorem containerCleanup_removes_passwdPending :
  (passwdPending.bEnable = true ∨ passwdPending.Reachable (Platform.single 7)) ∧
  (∀ p, (passwdPending.containerCleanup (Platform.single 7) 7 false).1.fileEvents.lookup p =
      if ((Platform.single 7).parseContainerFilePath p).1 = 7 then none
      else passwdPending.fileEvents.lookup p) ∧
  ∀ r', (passwdPending.containerCleanup (Platform.single 7) 7 false).1.groups.lookup r' =
    if r' = 7 then
      (if false then none
       else (passwdPending.groups.lookup r').map ({ · with learnRules := ∅, applyRules := ∅ }))
    else passwdPending.groups.lookup r'
  := ⟨.inr ⟨true, false, _, _, rfl⟩, containerCleanup_removes_only_container (Platform.single 7)
      passwdPending 7 false (.inr ⟨true, false, _, _, rfl⟩)⟩

/-! ### Watches after the cleanup -/

/-- A move of the watched `/etc/passwd` of container 7, whose entry a flush clones before
`ContainerCleanup(7, true)`. -/
def movedThenCleanup : List Action :=
  [watchFile policyModeEvaluate "/etc/passwd", .notify "/etc/passwd" inMoveSelf 0 none, .swap,
   .containerCleanup 7 true]

/-- The flush classifies the entry of `movedThenCleanup` after the cleanup, with no group of the
container left, and arms the file on both drivers again. -/
theorem classify_rearms_after_cleanup :
  (enabledWatch.run (Platform.single 7) movedThenCleanup).1.groups.lookup 7 = none ∧
  ((enabledWatch.run (Platform.single 7) movedThenCleanup).1.step (Platform.single 7)
      (.classify 0 (liveHost (fun _ => none) none))).2 =
    [.fanAddMonitorFile "/etc/passwd" (filterRegexOf (Platform.single 7) (fileFilter "/etc/passwd"))
       false true 0,
     .inoAddMonitorFile "/etc/passwd" 0]
  := ⟨rfl, by decide⟩

end FileWatch

end Fsmon
