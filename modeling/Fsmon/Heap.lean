import Fsmon.Arming
import Fsmon.Pipeline

/-!
# The records over a run

The drivers hold the monitor's `FileInfoExt` records by address: a record handed to them must
not be freed, reused for another path, or written by an unrelated step.  Over any run no record
is freed, new records take fresh addresses, and a record the run starts with changes only as the
record of an entry the flush classifies (`records_written_only_by_classify`).  Arming a
container, its cleanup, a driver's callback, the learning and the reports write no record that
exists.

What the monitor writes into a record is its path, mode and hash: no step changes the container,
link, filter, protection or origin of a record that exists (`records_keep_their_target`), so a
record never passes to another container or another policy.

Each stage is stated by `WritesOnly s w w'`: from `w` to `w'` no record is freed, every record of
`w` keeps its target, and of the records of `w` only those in `s` may change.  The arming folds
allocate only; classifying an entry writes through the entry's record and allocates.
-/

namespace Fsmon

/-- What a record says of the target it stands for: its container, the link it resolves, the
filter that selected it, its protection and whether the user added it. -/
@[reducible]
def FileInfoExt.target (r : FileInfoExt) : String × String × FilterRegex × Bool × Bool :=
  (r.containerId, r.link, r.filter, r.protect, r.userAdded)

namespace FileWatch

/-! ### Writing records -/

/-- From `w` to `w'` no record is freed, every record of `w` keeps its target, and of the
records of `w` only those in `s` change. -/
def WritesOnly (s : RecId → Prop) (w w' : FileWatch) : Prop :=
  w.nextRec ≤ w'.nextRec ∧
    ∀ r < w.nextRec, (w'.heap r).target = (w.heap r).target ∧ (¬ s r → w'.heap r = w.heap r)

theorem WritesOnly.of_unchanged {s : RecId → Prop} {w w' : FileWatch}
    (hn : w.nextRec ≤ w'.nextRec) (hh : ∀ r < w.nextRec, w'.heap r = w.heap r) :
  WritesOnly s w w'
  := ⟨hn, fun r hr => ⟨by rw [hh r hr], fun _ => hh r hr⟩⟩

theorem WritesOnly.of_records {s : RecId → Prop} {w w' : FileWatch} (hh : w'.heap = w.heap)
    (hn : w'.nextRec = w.nextRec) :
  WritesOnly s w w'
  := .of_unchanged hn.ge fun r _ => congrFun hh r

theorem WritesOnly.refl (s : RecId → Prop) (w : FileWatch) :
  WritesOnly s w w
  := .of_records rfl rfl

theorem WritesOnly.trans {s : RecId → Prop} {w₁ w₂ w₃ : FileWatch} (h₁ : WritesOnly s w₁ w₂)
    (h₂ : WritesOnly s w₂ w₃) :
  WritesOnly s w₁ w₃
  := ⟨h₁.1.trans h₂.1, fun r hr =>
    have h₂r := h₂.2 r (hr.trans_le h₁.1)
    ⟨h₂r.1.trans (h₁.2 r hr).1, fun hs => (h₂r.2 hs).trans ((h₁.2 r hr).2 hs)⟩⟩

theorem WritesOnly.weaken {s s' : RecId → Prop} {w w' : FileWatch} (h : WritesOnly s w w')
    (hs : ∀ r, s r → s' r) :
  WritesOnly s' w w'
  := ⟨h.1, fun r hr => ⟨(h.2 r hr).1, fun hn => (h.2 r hr).2 fun h' => hn (hs r h')⟩⟩

/-- A new record goes to a fresh address. -/
theorem writesOnly_alloc (s : RecId → Prop) (w : FileWatch) (r : FileInfoExt) :
  WritesOnly s w (w.alloc r).2
  := .of_unchanged (Nat.le_succ _) fun _ hr => Function.update_noteq (Nat.ne_of_lt hr) _ _

/-- Writing a record with the target it had. -/
theorem writesOnly_setRec (w : FileWatch) (id : RecId) (v : FileInfoExt)
    (hv : v.target = (w.heap id).target) :
  WritesOnly (· = id) w (w.setRec id v)
  := ⟨le_refl _, fun r _ => by
    by_cases h : r = id
    · subst h
      exact ⟨by rw [setRec_heap_self, hv], fun hn => absurd rfl hn⟩
    · exact ⟨by rw [setRec_heap_ne w v h], fun _ => setRec_heap_ne w v h⟩⟩

/-- A fold each of whose steps writes only `s` writes only `s`. -/
theorem writesOnly_foldl {α β : Type} (s : RecId → Prop) (st : β → FileWatch) (f : β → α → β)
    (step : ∀ b a, WritesOnly s (st b) (st (f b a))) (l : List α) (b : β) :
  WritesOnly s (st b) (st (l.foldl f b))
  := (foldl_grows f (fun b b' => WritesOnly s (st b) (st b')) (fun _ _ => True)
    (fun _ => .refl _ _) (fun h₁ h₂ => h₁.trans h₂) step (fun _ h => h) (fun _ _ => trivial) l b).1

/-! ### Arming allocates only -/

section Arming

variable (s : RecId → Prop) (P : Platform) (cid : String)

theorem addSingleFiles_writesOnly (w : FileWatch) (b : Bool)
    (dirList : AList (fun _ : String => DirTarget)) (singleFiles : List FileInfoExt) :
  WritesOnly s w (w.addSingleFiles P b cid dirList singleFiles).2.1
  := by
  unfold addSingleFiles
  refine writesOnly_foldl s
    (fun acc : AList (fun _ : String => DirTarget) × FileWatch × List Call => acc.2.1) _ ?_ _
    (dirList, w, [])
  intro acc finfo
  have ha : WritesOnly s acc.2.1 (acc.2.1.addSingle b cid finfo).1 := writesOnly_alloc _ _ _
  dsimp only
  split
  · split_ifs
    · exact .refl _ _
    · exact ha
  · exact ha

theorem addChildren_writesOnly (w : FileWatch) (children : List FileInfoExt) :
  WritesOnly s w (addChildren P w cid children).2
  := by
  refine writesOnly_foldl s Prod.snd _ ?_ children (∅, w)
  exact fun _ _ => writesOnly_alloc _ _ _

theorem addDirs_writesOnly (w : FileWatch) (b : Bool) (dirs : List DirTarget) :
  WritesOnly s w (w.addDirs P b cid dirs).1
  := by
  refine writesOnly_foldl s Prod.fst _ ?_ dirs (w, [])
  exact fun acc dir => (addChildren_writesOnly s P cid acc.1 dir.children).trans
    (writesOnly_alloc _ _ _)

/-- `addCoreFile` writes no record that exists. -/
theorem addCoreFile_writesOnly (w : FileWatch) (b : Bool)
    (dirList : AList (fun _ : String => DirTarget)) (singleFiles : List FileInfoExt) :
  WritesOnly s w (w.addCoreFile P b cid dirList singleFiles).1
  := (addSingleFiles_writesOnly s P cid w b dirList singleFiles).trans (addDirs_writesOnly s P cid _ b _)

theorem updateAccessRules_records (w : FileWatch) (rootPid : Int) (conf : CLUSFileAccessRule) :
  (w.updateAccessRules rootPid conf).1.heap = w.heap ∧
    (w.updateAccessRules rootPid conf).1.nextRec = w.nextRec
  := by
  unfold updateAccessRules
  split_ifs
  · exact ⟨rfl, rfl⟩
  · split <;> exact ⟨rfl, rfl⟩

/-- `StartWatch` writes no record that exists. -/
theorem startWatch_writesOnly (host : Host) (w : FileWatch) (rootPid : Int) (conf : FsmonConfig)
    (capBlock bNeuvectorSvc : Bool) (now : Int) :
  WritesOnly s w (w.startWatch P host cid rootPid conf capBlock bNeuvectorSvc now).1
  := by
  have ha := addCoreFile_writesOnly s P cid w (!bNeuvectorSvc)
    (getCoreFile P host rootPid (startProfile conf.profile)).1
    (getCoreFile P host rootPid (startProfile conf.profile)).2
  unfold startWatch
  split_ifs
  · exact .refl _ _
  · exact .refl _ _
  · exact ha
  · dsimp only
    split
    · exact ha.trans (.of_records (updateAccessRules_records _ _ _).1
        (updateAccessRules_records _ _ _).2)
    · exact ha

end Arming

/-! ### Classifying writes through the entry's record -/

theorem addNewFile_writesOnly (s : RecId → Prop) (P : Platform) (host : Host) (w : FileWatch)
    (event : Nat) (fmod : FileMod) (fullPath path : String) (pid : Int) :
  WritesOnly s w (w.addNewFile P host event fmod fullPath path pid).2.1
  := by
  refine writesOnly_foldl s Prod.snd _ ?_ _ (∅, w)
  exact fun _ _ => writesOnly_alloc _ _ _

theorem handleFileEvents_writesOnly (host : Host) (w : FileWatch) (fmod : FileMod)
    (info : Option Nat) (fullPath : String) :
  WritesOnly (· = fmod.finfo) w (w.handleFileEvents host fmod info fullPath).2.1
  := by
  simp only [handleFileEvents]
  repeat' split
  all_goals with_reducible first
    | exact .refl _ _
    | exact writesOnly_setRec _ _ _ (by rfl)

theorem handleDirEvents_writesOnly (P : Platform) (host : Host) (w : FileWatch) (fmod : FileMod)
    (info : Option Nat) (fullPath path : String) (pid : Int) :
  WritesOnly (· = fmod.finfo) w (w.handleDirEvents P host fmod info fullPath path pid).2.1
  := by
  simp only [handleDirEvents]
  repeat' split
  all_goals with_reducible first
    | exact .refl _ _
    | exact writesOnly_setRec _ _ _ (by rfl)
    | exact addNewFile_writesOnly _ _ _ _ _ _ _ _ _
    | exact (writesOnly_setRec _ _ _ (by rfl)).trans (addNewFile_writesOnly _ _ _ _ _ _ _ _ _)

/-- Classifying an entry writes no record that exists but the entry's own. -/
theorem classifyEntry_writesOnly (P : Platform) (host : Host) (w : FileWatch) (fullPath : String)
    (fmod : FileMod) :
  WritesOnly (· = fmod.finfo) w (classifyEntry P host w fullPath fmod).2.1
  := by
  simp only [classifyEntry]
  split_ifs
  · exact .refl _ _
  · exact handleDirEvents_writesOnly _ _ _ _ _ _ _ _
  · exact handleFileEvents_writesOnly _ _ _ _ _

/-! ### Steps and runs -/

/-- A step writes no record that exists but that of the entry it classifies. -/
theorem writesOnly_step (P : Platform) (w : FileWatch) (a : Action) :
  WritesOnly (fun r => ∃ e ∈ w.classifiedBy a, e.2.finfo = r) w (w.step P a).1
  := by
  cases hb : w.bEnable
  · rw [step_of_disabled P w a hb]
    exact .refl _ _
  cases a with
  | startWatch host id rootPid conf capBlock bNeuvectorSvc now =>
    exact startWatch_writesOnly _ P id host w rootPid conf capBlock bNeuvectorSvc now
  | updateAccessRules rootPid conf =>
    exact .of_records (updateAccessRules_records w rootPid conf).1
      (updateAccessRules_records w rootPid conf).2
  | containerCleanup rootPid bLeave =>
    refine .of_records ?_ ?_ <;> simp [containerCleanup, hb]
  | notify filePath mask params pInfo =>
    rw [step_notify P w hb]
    unfold cbNotify
    split_ifs <;> exact .refl _ _
  | alert =>
    rw [step_alert P w hb]
    exact .refl _ _
  | swap =>
    rw [step_swap P w hb]
    unfold handleWatchedFiles
    split <;> exact .refl _ _
  | classify i host =>
    rw [step_classify P w hb]
    unfold classifyNext
    split
    · next b hf =>
      split
      · next fullPath fmod he =>
        have he' : (fullPath, fmod) ∈ w.classifiedBy (.classify i host) := by
          simp only [classifiedBy, hb, hf, he]
          exact List.mem_singleton_self _
        have h := (classifyEntry_writesOnly P host w fullPath fmod).weaken fun r hr =>
          show ∃ e ∈ w.classifiedBy (.classify i host), e.2.finfo = r from ⟨_, he', hr.symm⟩
        dsimp only
        split_ifs <;> exact h
      · exact .refl _ _
    · exact .refl _ _
  | learn =>
    rw [step_learn P w hb]
    unfold learnNext
    split
    · split <;> exact .refl _ _
    · exact .refl _ _
  | send now =>
    rw [step_send P w hb]
    unfold sendNext
    split <;> exact .refl _ _
  | report =>
    rw [step_report P w hb]
    unfold reportNext
    split <;> exact .refl _ _

/-- Over any run, no record is freed, every record the run starts with keeps its target, and it
changes only as the record of an entry the flush classifies along the run. -/
theorem writesOnly_run (P : Platform) (w : FileWatch) (as : List Action) :
  WritesOnly (fun r => ∃ e ∈ w.collect P classifiedBy as, e.2.finfo = r) w (w.run P as).1
  := by
  induction as generalizing w with
  | nil => exact .refl _ _
  | cons a as ih =>
    rw [run_cons]
    exact ((writesOnly_step P w a).weaken fun _ ⟨e, he, h⟩ => ⟨e, List.mem_append_left _ he, h⟩).trans
      ((ih _).weaken fun _ ⟨e, he, h⟩ => ⟨e, List.mem_append_right _ he, h⟩)

/-- Over any run, no record is freed, and a record the run starts with changes only as the
record of an entry the flush classifies along the run. -/
theorem records_written_only_by_classify (P : Platform) (w : FileWatch) (as : List Action) :
  w.nextRec ≤ (w.run P as).1.nextRec ∧
    ∀ r < w.nextRec, (w.run P as).1.heap r ≠ w.heap r →
      ∃ e ∈ w.collect P classifiedBy as, e.2.finfo = r
  := by
  obtain ⟨hn, hh⟩ := writesOnly_run P w as
  exact ⟨hn, fun r hr hne => Classical.byContradiction fun hs => hne ((hh r hr).2 hs)⟩

/-- Over any run, every record the run starts with keeps the container, link, filter, protection
and origin it was made with: the monitor only ever rewrites the path, mode and hash of a record
the drivers hold. -/
theorem records_keep_their_target (P : Platform) (w : FileWatch) (as : List Action) :
  ∀ r < w.nextRec,
    ((w.run P as).1.heap r).containerId = (w.heap r).containerId ∧
    ((w.run P as).1.heap r).link = (w.heap r).link ∧
    ((w.run P as).1.heap r).filter = (w.heap r).filter ∧
    ((w.run P as).1.heap r).protect = (w.heap r).protect ∧
    ((w.run P as).1.heap r).userAdded = (w.heap r).userAdded
  := fun r hr => by
  simpa only [FileInfoExt.target, Prod.mk.injEq] using ((writesOnly_run P w as).2 r hr).1

/-- Container 7 with `/etc/passwd` armed, in Evaluate mode: its record is at address 0. -/
def passwdWatched : FileWatch :=
  (enabledWatch.run (Platform.single 7) [watchFile policyModeEvaluate "/etc/passwd"]).1

/-- A write of `/etc/passwd` that a flush classifies, storing the file's new hash in its record. -/
def passwdWrite : List Action :=
  [.notify "/etc/passwd" inModify 0 none, .swap, .classify 0 (liveHost (fun _ => some 1) none)]

/-- Classifying the write stores a new hash in the record of `/etc/passwd`, and keeps its target. -/
theorem passwd_record_keeps_target :
  ((passwdWatched.run (Platform.single 7) passwdWrite).1.heap 0).hash ≠
      (passwdWatched.heap 0).hash ∧
  0 < passwdWatched.nextRec ∧
    ((passwdWatched.run (Platform.single 7) passwdWrite).1.heap 0).containerId =
      (passwdWatched.heap 0).containerId ∧
    ((passwdWatched.run (Platform.single 7) passwdWrite).1.heap 0).link =
      (passwdWatched.heap 0).link ∧
    ((passwdWatched.run (Platform.single 7) passwdWrite).1.heap 0).filter =
      (passwdWatched.heap 0).filter ∧
    ((passwdWatched.run (Platform.single 7) passwdWrite).1.heap 0).protect =
      (passwdWatched.heap 0).protect ∧
    ((passwdWatched.run (Platform.single 7) passwdWrite).1.heap 0).userAdded =
      (passwdWatched.heap 0).userAdded
  := ⟨by decide, by decide,
    records_keep_their_target (Platform.single 7) passwdWatched passwdWrite 0 (by decide)⟩

end FileWatch

end Fsmon
