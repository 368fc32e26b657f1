import Fsmon.Machine

/-!
# What `StartWatch` arms

`StartWatch` walks the container from the base directories of its profile's filters; each filter
picks walked directories and files (`getDirFileList`), `getCoreFile` merges what all the filters
picked, and `addCoreFile` arms it: a directory target with the files found in it, named in the
directory's call, and every other file on its own.

The calls arm exactly what the filters select.  Every arming call carries the record a filter
builds for a walked path it selects, with that filter's protection and origin, and a directory's
call names only selected files of that directory (`startWatch_arms_only_selected`).  And every
walked directory or file that some filter selects is marked on fanotify: on its own, as a
directory, or named in the call of its directory (`startWatch_marks_selected`).

Both are carried through the stages by three invariants: `DirsOk`, the directory targets built so
far are sound; `Grows`, a stage keeps every directory target with its children; and `Covers`, a
file is a child of the target of its directory or one of the single files.
-/

namespace Fsmon

/-! ### Folds -/

/-- A fold whose every step grows its accumulator along `R`, and gives the element it takes a
property `Q` that growing keeps, ends grown from where it started, with `Q` for every element. -/
theorem foldl_grows {α β : Type} (f : β → α → β) (R : β → β → Prop) (Q : α → β → Prop)
    (refl : ∀ b, R b b) (trans : ∀ {b₁ b₂ b₃}, R b₁ b₂ → R b₂ b₃ → R b₁ b₃)
    (step : ∀ b a, R b (f b a)) (mono : ∀ {a b b'}, R b b' → Q a b → Q a b')
    (take : ∀ b a, Q a (f b a)) (l : List α) (b : β) :
  R b (l.foldl f b) ∧ ∀ a ∈ l, Q a (l.foldl f b)
  := by
  induction l generalizing b with
  | nil => exact ⟨refl b, fun _ h => absurd h (List.not_mem_nil _)⟩
  | cons x xs ih =>
    obtain ⟨hR, hQ⟩ := ih (f b x)
    refine ⟨trans (step b x) hR, fun a ha => ?_⟩
    rcases List.mem_cons.1 ha with rfl | ha
    · exact mono hR (take b a)
    · exact hQ a ha

/-! ### Directory targets that grow -/

/-- `dl'` keeps every directory target of `dl`, with at least its children. -/
def Grows (dl dl' : AList (fun _ : String => DirTarget)) : Prop :=
  ∀ k dt, dl.lookup k = some dt → ∃ dt', dl'.lookup k = some dt' ∧ dt.children ⊆ dt'.children

/-- The file `p` is a child of the target of its directory. -/
def InDir (P : Platform) (dl : AList (fun _ : String => DirTarget)) (p : String) : Prop :=
  ∃ dt, dl.lookup (P.dir p) = some dt ∧ ∃ c ∈ dt.children, c.path = p

/-- The file `p` is a child of the target of its directory, or one of the single files. -/
def Covers (P : Platform) (t : AList (fun _ : String => DirTarget) × List FileInfoExt)
    (p : String) : Prop :=
  InDir P t.1 p ∨ ∃ s ∈ t.2, s.path = p

theorem Grows.refl (dl : AList (fun _ : String => DirTarget)) :
  Grows dl dl
  := fun _ dt h => ⟨dt, h, List.Subset.refl _⟩

theorem Grows.trans {dl₁ dl₂ dl₃ : AList (fun _ : String => DirTarget)} (h₁ : Grows dl₁ dl₂)
    (h₂ : Grows dl₂ dl₃) :
  Grows dl₁ dl₃
  := fun k dt h => by
  obtain ⟨dt₂, h₂', hs₂⟩ := h₁ k dt h
  obtain ⟨dt₃, h₃, hs₃⟩ := h₂ k dt₂ h₂'
  exact ⟨dt₃, h₃, hs₂.trans hs₃⟩

/-- Inserting at a key a target with at least the children of the one there keeps every
target. -/
theorem grows_insert {dl : AList (fun _ : String => DirTarget)} {k : String} {v : DirTarget}
    (h : ∀ dt, dl.lookup k = some dt → dt.children ⊆ v.children) :
  Grows dl (dl.insert k v)
  := by
  intro k' dt hdt
  by_cases hk : k' = k
  · subst hk
    exact ⟨v, AList.lookup_insert _, h dt hdt⟩
  · exact ⟨dt, (AList.lookup_insert_ne hk).trans hdt, List.Subset.refl _⟩

theorem Grows.mem {dl dl' : AList (fun _ : String => DirTarget)} {k : String} (h : Grows dl dl')
    (hk : k ∈ dl) :
  k ∈ dl'
  := by
  obtain ⟨dt, hdt⟩ := Option.isSome_iff_exists.1 (AList.lookup_isSome.2 hk)
  obtain ⟨dt', hdt', -⟩ := h k dt hdt
  exact AList.lookup_isSome.1 (by simp [hdt'])

theorem Grows.inDir {P : Platform} {dl dl' : AList (fun _ : String => DirTarget)} {p : String}
    (h : Grows dl dl') (hp : InDir P dl p) :
  InDir P dl' p
  := by
  obtain ⟨dt, hdt, c, hc, rfl⟩ := hp
  obtain ⟨dt', hdt', hs⟩ := h _ dt hdt
  exact ⟨dt', hdt', c, hs hc, rfl⟩

/-- `t'` keeps every directory target of `t`, with its children, and every single file. -/
def Extends (t t' : AList (fun _ : String => DirTarget) × List FileInfoExt) : Prop :=
  Grows t.1 t'.1 ∧ t.2 ⊆ t'.2

theorem Extends.refl (t : AList (fun _ : String => DirTarget) × List FileInfoExt) :
  Extends t t
  := ⟨Grows.refl _, List.Subset.refl _⟩

theorem Extends.trans {t₁ t₂ t₃ : AList (fun _ : String => DirTarget) × List FileInfoExt}
    (h₁ : Extends t₁ t₂) (h₂ : Extends t₂ t₃) :
  Extends t₁ t₃
  := ⟨h₁.1.trans h₂.1, h₁.2.trans h₂.2⟩

theorem Covers.mono {P : Platform} {t t' : AList (fun _ : String => DirTarget) × List FileInfoExt}
    {p : String} (h : Extends t t') (hp : Covers P t p) :
  Covers P t' p
  := hp.imp h.1.inDir fun ⟨s, hs', hp⟩ => ⟨s, h.2 hs', hp⟩

/-! ### What the filters select -/

section Selection

variable (P : Platform) (pid : Int) (filters : List CLUSFileMonitorFilter) (res : WalkPathResult)

/-- The record `getDirFileList` builds for a walked file that one of `filters` selects. -/
def IsFileTarget (r : FileInfoExt) : Prop :=
  ∃ flt ∈ filters, ∃ f ∈ res.files, fileSelects P flt f.file = true ∧
    r = targetRecord P flt (P.containerFilePath pid f.file) f.mode

/-- The record `getDirFileList` builds for a walked directory that one of `filters` selects. -/
def IsDirTarget (r : FileInfoExt) : Prop :=
  ∃ flt ∈ filters, ∃ d ∈ res.dirs, dirSelects flt d.dir = true ∧
    r = targetRecord P flt (P.containerFilePath pid d.dir) d.mode

/-- The path in the container of a walked file that one of `filters` selects. -/
def IsSelectedFile (p : String) : Prop :=
  ∃ r, IsFileTarget P pid filters res r ∧ r.path = p

/-- A directory target at the key `k` is sound: the record of a selected directory at the path
`k`, with children that are selected files of that directory. -/
def DirEntryOk (k : String) (dt : DirTarget) : Prop :=
  dt.info.path = k ∧ IsDirTarget P pid filters res dt.info ∧
    ∀ c ∈ dt.children, P.dir c.path = k ∧ IsSelectedFile P pid filters res c.path

/-- Every directory target is sound. -/
def DirsOk (dl : AList (fun _ : String => DirTarget)) : Prop :=
  ∀ k dt, dl.lookup k = some dt → DirEntryOk P pid filters res k dt

/-- What a call of `StartWatch` may arm for a walk of the container: on its own, the record of a
selected file, with its filter, protection and origin; as a directory, the record of a selected
directory, naming only selected files of that directory.  Any other call arms nothing. -/
def Call.ArmsSelected : Call → Prop
  | .fanAddMonitorFile path filter protect userAdded _ =>
    ∃ r, IsFileTarget P pid filters res r ∧
      r.path = path ∧ r.filter = filter ∧ r.protect = protect ∧ r.userAdded = userAdded
  | .inoAddMonitorFile path _ => IsSelectedFile P pid filters res path
  | .fanAddMonitorDirFile path filter protect userAdded files _ =>
    (∃ r, IsDirTarget P pid filters res r ∧
      r.path = path ∧ r.filter = filter ∧ r.protect = protect ∧ r.userAdded = userAdded) ∧
    ∀ name ∈ files.map Prod.fst,
      ∃ p, IsSelectedFile P pid filters res p ∧ P.dir p = path ∧ P.base p = name
  | .inoAddMonitorDirFile path _ => ∃ r, IsDirTarget P pid filters res r ∧ r.path = path
  | _ => True

/-- Whether a call marks the directory `p` on fanotify. -/
def Call.MarksDir (p : String) : Call → Prop
  | .fanAddMonitorDirFile path .. => path = p
  | _ => False

/-- Whether a call marks the file `p` on fanotify: on its own, or named in the call of its
directory. -/
def Call.MarksFile (p : String) : Call → Prop
  | .fanAddMonitorFile path .. => path = p
  | .fanAddMonitorDirFile path _ _ _ files _ => path = P.dir p ∧ P.base p ∈ files.map Prod.fst
  | _ => False

theorem dirsOk_empty :
  DirsOk P pid filters res ∅
  := fun k _ h => by simp [AList.lookup_empty] at h

variable {P pid filters res}

theorem DirsOk.insert {dl : AList (fun _ : String => DirTarget)} {k : String} {v : DirTarget}
    (h : DirsOk P pid filters res dl) (hv : DirEntryOk P pid filters res k v) :
  DirsOk P pid filters res (dl.insert k v)
  := by
  intro k' dt hdt
  by_cases hk : k' = k
  · subst hk
    rw [AList.lookup_insert, Option.some_inj] at hdt
    exact hdt ▸ hv
  · rw [AList.lookup_insert_ne hk] at hdt
    exact h k' dt hdt

theorem DirEntryOk.append {k : String} {di : DirTarget} {xs : List FileInfoExt}
    (h : DirEntryOk P pid filters res k di)
    (hxs : ∀ c ∈ xs, P.dir c.path = k ∧ IsSelectedFile P pid filters res c.path) :
  DirEntryOk P pid filters res k { di with children := di.children ++ xs }
  := ⟨h.1, h.2.1, fun c hc => (List.mem_append.1 hc).elim (h.2.2 c) (hxs c)⟩

theorem DirsOk.of_mem {dl : AList (fun _ : String => DirTarget)} (h : DirsOk P pid filters res dl)
    {k : String} {dt : DirTarget} (he : Sigma.mk k dt ∈ dl.entries) :
  DirEntryOk P pid filters res k dt
  := h k dt (AList.mem_lookup_iff.2 he)

theorem Call.armsSelected_of_armedPath {c : Call} (h : c.armedPath = none) :
  c.ArmsSelected P pid filters res
  := by
  cases c <;> simp_all [Call.armedPath, Call.ArmsSelected]

end Selection

/-! ### `getDirFileList` -/

/-- Every target a filter of `filters` picks is the record of a walked path it selects, and each
file inside a directory target is a child of that target. -/
theorem getDirFileList_sound (P : Platform) (pid : Int) (res : WalkPathResult)
    {filters : List CLUSFileMonitorFilter} {flt : CLUSFileMonitorFilter} (hflt : flt ∈ filters) :
  DirsOk P pid filters res (getDirFileList P pid res flt).1 ∧
    ∀ s ∈ (getDirFileList P pid res flt).2, IsFileTarget P pid filters res s
  := by
  unfold getDirFileList
  dsimp only
  refine List.foldlRecOn (motive := fun acc : AList (fun _ : String => DirTarget) × List FileInfoExt =>
      DirsOk P pid filters res acc.1 ∧ ∀ s ∈ acc.2, IsFileTarget P pid filters res s)
    _ _ _ ⟨?_, fun _ h => absurd h (List.not_mem_nil _)⟩ ?_
  · refine List.foldlRecOn (motive := DirsOk P pid filters res) _ _ _
      (dirsOk_empty P pid filters res) ?_
    intro dl h d hd
    split
    · exact h.insert ⟨rfl, ⟨flt, hflt, d, hd, ‹_›, rfl⟩, fun _ hc => absurd hc (List.not_mem_nil _)⟩
    · exact h
  · rintro acc ⟨h, hs⟩ f hf
    split
    · rename_i hsel
      have hfile : IsFileTarget P pid filters res
          (targetRecord P flt (P.containerFilePath pid f.file) f.mode) :=
        ⟨flt, hflt, f, hf, hsel, rfl⟩
      split
      · rename_i di hdi
        refine ⟨h.insert ((h _ di hdi).append fun c hc => ?_), hs⟩
        rw [List.mem_singleton.1 hc]
        exact ⟨rfl, _, hfile, rfl⟩
      · refine ⟨h, fun s hs' => ?_⟩
        rcases List.mem_append.1 hs' with hs' | hs'
        · exact hs s hs'
        · exact (List.mem_singleton.1 hs') ▸ hfile
    · exact ⟨h, hs⟩

/-- Every walked directory a filter selects is a target, and every walked file it selects is a
child of the target of its directory or a single file. -/
theorem getDirFileList_complete (P : Platform) (pid : Int) (res : WalkPathResult)
    (flt : CLUSFileMonitorFilter) :
  (∀ d ∈ res.dirs, dirSelects flt d.dir = true →
    P.containerFilePath pid d.dir ∈ (getDirFileList P pid res flt).1) ∧
  ∀ f ∈ res.files, fileSelects P flt f.file = true →
    Covers P (getDirFileList P pid res flt) (P.containerFilePath pid f.file)
  := by
  unfold getDirFileList
  dsimp only
  refine (foldl_grows _ Extends (fun (f : FileData) t => fileSelects P flt f.file = true →
      Covers P t (P.containerFilePath pid f.file)) Extends.refl Extends.trans ?_
      (fun h hQ hsel => (hQ hsel).mono h) ?_ res.files _).imp (fun h d hd hsel => h.1.mem ?_) id
  · intro acc f
    dsimp only
    split
    · split
      · exact ⟨grows_insert fun dt hdt => by simp_all, List.Subset.refl _⟩
      · exact ⟨Grows.refl _, List.subset_append_left _ _⟩
    · exact Extends.refl _
  · intro acc f hsel
    dsimp only
    rw [if_pos hsel]
    split
    · exact .inl ⟨_, AList.lookup_insert _, _, List.mem_append_right _ (List.mem_singleton_self _),
        rfl⟩
    · exact .inr ⟨_, List.mem_append_right _ (List.mem_singleton_self _), rfl⟩
  · refine (foldl_grows _ (fun dl dl' => ∀ k ∈ dl, k ∈ dl')
      (fun (d : DirData) (dl : AList (fun _ : String => DirTarget)) =>
        dirSelects flt d.dir = true → P.containerFilePath pid d.dir ∈ dl)
      (fun _ _ h => h) (fun h₁ h₂ k hk => h₂ k (h₁ k hk)) ?_ (fun h hQ hsel => h _ (hQ hsel)) ?_
      res.dirs ∅).2 d hd hsel
    · intro dl d' k hk
      dsimp only
      split
      · exact (AList.mem_insert _).2 (.inr hk)
      · exact hk
    · intro dl d' hsel'
      dsimp only
      rw [if_pos hsel']
      exact (AList.mem_insert _).2 (.inl rfl)

/-! ### `getDirAndFileList` and `getCoreFile` -/

/-- Merging a filter's targets keeps every target of `dirList`, and every directory target of the
filter, with at least its children. -/
theorem getDirAndFileList_extends (P : Platform) (pid : Int) (res : WalkPathResult)
    (flt : CLUSFileMonitorFilter) (dirList : AList (fun _ : String => DirTarget)) :
  Grows dirList (getDirAndFileList P pid res flt dirList).1 ∧
    Extends (getDirFileList P pid res flt) (getDirAndFileList P pid res flt dirList)
  := by
  have hok := (getDirFileList_sound P pid res (List.mem_singleton_self flt)).1
  unfold getDirAndFileList
  generalize getDirFileList P pid res flt = t at hok ⊢
  obtain ⟨dirs, singles⟩ := t
  dsimp only at hok ⊢
  refine (foldl_grows _ Grows
    (fun (e : Sigma fun _ : String => DirTarget) dl =>
      ∃ dt, dl.lookup e.2.info.path = some dt ∧ e.2.children ⊆ dt.children)
    Grows.refl Grows.trans ?_ ?_ ?_ dirs.entries dirList).imp id
    fun hkeep => ⟨fun k dt hdt => ?_, List.Subset.refl _⟩
  · intro dl e
    dsimp only
    split <;> exact grows_insert fun dt hdt => by simp_all
  · rintro e dl dl' h ⟨dt, hdt, hs⟩
    obtain ⟨dt', hdt', hs'⟩ := h _ dt hdt
    exact ⟨dt', hdt', hs.trans hs'⟩
  · intro dl e
    dsimp only
    split
    · exact ⟨_, AList.lookup_insert _, List.subset_append_right _ _⟩
    · exact ⟨_, AList.lookup_insert _, List.Subset.refl _⟩
  · have := hkeep ⟨k, dt⟩ (AList.mem_lookup_iff.1 hdt)
    rwa [(hok k dt hdt).1] at this

theorem getDirAndFileList_sound (P : Platform) (pid : Int) (res : WalkPathResult)
    {filters : List CLUSFileMonitorFilter} {flt : CLUSFileMonitorFilter} (hflt : flt ∈ filters)
    {dirList : AList (fun _ : String => DirTarget)} (h : DirsOk P pid filters res dirList) :
  DirsOk P pid filters res (getDirAndFileList P pid res flt dirList).1 ∧
    ∀ s ∈ (getDirAndFileList P pid res flt dirList).2, IsFileTarget P pid filters res s
  := by
  obtain ⟨hdirs, hs⟩ := getDirFileList_sound P pid res hflt
  unfold getDirAndFileList
  generalize getDirFileList P pid res flt = t at hdirs hs ⊢
  obtain ⟨dirs, singles⟩ := t
  dsimp only at hdirs hs ⊢
  refine ⟨List.foldlRecOn (motive := DirsOk P pid filters res) _ _ _ h ?_, hs⟩
  rintro dl hdl ⟨k, dt⟩ he
  obtain ⟨rfl, hdt⟩ := hdirs.of_mem he
  dsimp only
  split
  · rename_i di hdi
    exact hdl.insert ((hdl _ di hdi).append hdt.2)
  · exact hdl.insert ⟨rfl, hdt⟩

theorem getDirAndFileList_complete (P : Platform) (pid : Int) (res : WalkPathResult)
    (flt : CLUSFileMonitorFilter) (dirList : AList (fun _ : String => DirTarget)) :
  (∀ d ∈ res.dirs, dirSelects flt d.dir = true →
    P.containerFilePath pid d.dir ∈ (getDirAndFileList P pid res flt dirList).1) ∧
  ∀ f ∈ res.files, fileSelects P flt f.file = true →
    Covers P (getDirAndFileList P pid res flt dirList) (P.containerFilePath pid f.file)
  := by
  obtain ⟨hd, hf⟩ := getDirFileList_complete P pid res flt
  have h := (getDirAndFileList_extends P pid res flt dirList).2
  exact ⟨fun d hd' hsel => h.1.mem (hd d hd' hsel), fun f hf' hsel => (hf f hf' hsel).mono h⟩

theorem getCoreFile_sound (P : Platform) (host : Host) (pid : Int)
    (profile : CLUSFileMonitorProfile) (res : WalkPathResult)
    (hwalk : host.walk pid (getRootFsDirs P profile) = some res) :
  DirsOk P pid (profile.filters ++ profile.filtersCRD) res (getCoreFile P host pid profile).1 ∧
    ∀ s ∈ (getCoreFile P host pid profile).2,
      IsFileTarget P pid (profile.filters ++ profile.filtersCRD) res s
  := by
  unfold getCoreFile
  rw [hwalk]
  dsimp only
  refine List.foldlRecOn (motive := fun acc : AList (fun _ : String => DirTarget) × List FileInfoExt =>
      DirsOk P pid (profile.filters ++ profile.filtersCRD) res acc.1 ∧
        ∀ s ∈ acc.2, IsFileTarget P pid (profile.filters ++ profile.filtersCRD) res s)
    _ _ _ ⟨dirsOk_empty _ _ _ _, fun _ h => absurd h (List.not_mem_nil _)⟩ ?_
  rintro acc ⟨h, hs⟩ flt hflt
  obtain ⟨h', hs'⟩ := getDirAndFileList_sound P pid res hflt h
  dsimp only
  generalize getDirAndFileList P pid res flt acc.1 = g at h' hs' ⊢
  obtain ⟨dl, singles⟩ := g
  exact ⟨h', fun s hs'' => (List.mem_append.1 hs'').elim (hs s) (hs' s)⟩

theorem getCoreFile_complete (P : Platform) (host : Host) (pid : Int)
    (profile : CLUSFileMonitorProfile) (res : WalkPathResult)
    (hwalk : host.walk pid (getRootFsDirs P profile) = some res) :
  ∀ flt ∈ profile.filters ++ profile.filtersCRD,
    (∀ d ∈ res.dirs, dirSelects flt d.dir = true →
      P.containerFilePath pid d.dir ∈ (getCoreFile P host pid profile).1) ∧
    ∀ f ∈ res.files, fileSelects P flt f.file = true →
      Covers P (getCoreFile P host pid profile) (P.containerFilePath pid f.file)
  := by
  unfold getCoreFile
  rw [hwalk]
  dsimp only
  refine (foldl_grows _ Extends (fun (flt : CLUSFileMonitorFilter) t =>
      (∀ d ∈ res.dirs, dirSelects flt d.dir = true → P.containerFilePath pid d.dir ∈ t.1) ∧
      ∀ f ∈ res.files, fileSelects P flt f.file = true →
        Covers P t (P.containerFilePath pid f.file))
    Extends.refl Extends.trans ?_ ?_ ?_ _ _).2
  · intro acc flt
    have h := (getDirAndFileList_extends P pid res flt acc.1).1
    generalize getDirAndFileList P pid res flt acc.1 = g at h ⊢
    obtain ⟨dl, singles⟩ := g
    exact ⟨h, List.subset_append_left _ _⟩
  · rintro flt t t' h ⟨hd, hf⟩
    exact ⟨fun d hd' hsel => h.1.mem (hd d hd' hsel), fun f hf' hsel => (hf f hf' hsel).mono h⟩
  · intro acc flt
    have h := getDirAndFileList_complete P pid res flt acc.1
    generalize getDirAndFileList P pid res flt acc.1 = g at h ⊢
    obtain ⟨dl, singles⟩ := g
    have hx : Extends (dl, singles) (dl, acc.2 ++ singles) :=
      ⟨Grows.refl _, List.subset_append_right _ _⟩
    exact ⟨h.1, fun f hf' hsel => (h.2 f hf' hsel).mono hx⟩

/-! ### `addCoreFile` -/

namespace FileWatch

theorem addSingle_calls (w : FileWatch) (b : Bool) (cid : String) (finfo : FileInfoExt) :
  (w.addSingle b cid finfo).2 =
    if w.bEnable then
      .fanAddMonitorFile finfo.path finfo.filter finfo.protect finfo.userAdded w.nextRec ::
        (if b && !hasSuffix finfo.filter.path "/.*" then [.inoAddMonitorFile finfo.path w.nextRec]
         else [])
    else []
  := by
  simp only [addSingle, addFile, alloc, Function.update_same]
  split <;> simp_all

theorem addDir_alloc (w : FileWatch) (b : Bool) (r : FileInfoExt) (files : List (String × RecId)) :
  (w.alloc r).2.addDir b (w.alloc r).1 files =
    if w.bEnable then
      .fanAddMonitorDirFile r.path r.filter r.protect r.userAdded files w.nextRec ::
        (if b then [.inoAddMonitorDirFile r.path w.nextRec] else [])
    else []
  := by
  simp only [addDir, alloc, Function.update_same]
  split <;> simp_all

/-- The names of the files of a directory's call are the base names of its children. -/
theorem mem_addChildren (P : Platform) (w : FileWatch) (cid : String) (children : List FileInfoExt)
    (name : String) :
  name ∈ (addChildren P w cid children).1 ↔ ∃ c ∈ children, P.base c.path = name
  := by
  unfold addChildren
  constructor
  · refine List.foldlRecOn (motive := fun acc : AList (fun _ : String => RecId) × FileWatch =>
        name ∈ acc.1 → ∃ c ∈ children, P.base c.path = name)
      _ _ _ (fun h => absurd h (AList.not_mem_empty _)) ?_
    intro acc ih c hc hmem
    rcases (AList.mem_insert _).1 hmem with rfl | hmem
    · exact ⟨c, hc, rfl⟩
    · exact ih hmem
  · rintro ⟨c, hc, rfl⟩
    exact (foldl_grows _
      (fun acc acc' : AList (fun _ : String => RecId) × FileWatch => ∀ k ∈ acc.1, k ∈ acc'.1)
      (fun (c : FileInfoExt) (acc : AList (fun _ : String => RecId) × FileWatch) =>
        P.base c.path ∈ acc.1)
      (fun _ _ h => h) (fun h₁ h₂ k hk => h₂ k (h₁ k hk))
      (fun _ _ _ hk => (AList.mem_insert _).2 (.inr hk)) (fun h hc => h _ hc)
      (fun _ _ => (AList.mem_insert _).2 (.inl rfl)) _ _).2 c hc

theorem names_eq_keys (m : AList (fun _ : String => RecId)) :
  (m.entries.map fun e => (e.1, e.2)).map Prod.fst = m.keys
  := by
  simp [AList.keys, List.keys, Function.comp_def]

section Arming

variable {P : Platform} {pid : Int} {filters : List CLUSFileMonitorFilter} {res : WalkPathResult}

theorem addSingle_armsSelected (w : FileWatch) (b : Bool) (cid : String) {finfo : FileInfoExt}
    (h : IsFileTarget P pid filters res finfo) :
  ∀ c ∈ (w.addSingle b cid finfo).2, c.ArmsSelected P pid filters res
  := by
  have hfan : (Call.fanAddMonitorFile finfo.path finfo.filter finfo.protect finfo.userAdded
      w.nextRec).ArmsSelected P pid filters res := ⟨finfo, h, rfl, rfl, rfl, rfl⟩
  have hino : (Call.inoAddMonitorFile finfo.path w.nextRec).ArmsSelected P pid filters res :=
    ⟨finfo, h, rfl⟩
  rw [addSingle_calls]
  split_ifs <;> simp [hfan, hino]

theorem addSingle_marks (P : Platform) (w : FileWatch) (b : Bool) (cid : String)
    (finfo : FileInfoExt) (hb : w.bEnable = true) :
  ∃ c ∈ (w.addSingle b cid finfo).2, c.MarksFile P finfo.path
  := by
  rw [addSingle_calls, if_pos hb]
  exact ⟨_, List.mem_cons_self _ _, rfl⟩

/-- Arming the single files keeps the directory targets sound, and arms only selected files. -/
theorem addSingleFiles_sound (w : FileWatch) (b : Bool) (cid : String)
    {dirList : AList (fun _ : String => DirTarget)} {singleFiles : List FileInfoExt}
    (h : DirsOk P pid filters res dirList)
    (hs : ∀ s ∈ singleFiles, IsFileTarget P pid filters res s) :
  DirsOk P pid filters res (w.addSingleFiles P b cid dirList singleFiles).1 ∧
    ∀ c ∈ (w.addSingleFiles P b cid dirList singleFiles).2.2, c.ArmsSelected P pid filters res
  := by
  unfold addSingleFiles
  refine List.foldlRecOn
    (motive := fun acc : AList (fun _ : String => DirTarget) × FileWatch × List Call =>
      DirsOk P pid filters res acc.1 ∧ ∀ c ∈ acc.2.2, c.ArmsSelected P pid filters res)
    _ _ _ ⟨h, fun _ h => absurd h (List.not_mem_nil _)⟩ ?_
  rintro acc ⟨hdl, hcs⟩ finfo hf
  have harm : ∀ c ∈ acc.2.2 ++ (acc.2.1.addSingle b cid finfo).2,
      c.ArmsSelected P pid filters res :=
    List.forall_mem_append.2 ⟨hcs, addSingle_armsSelected _ b cid (hs finfo hf)⟩
  dsimp only
  split
  · rename_i di hdi
    split
    · refine ⟨hdl.insert ((hdl _ di hdi).append fun c hc => ?_), hcs⟩
      rw [List.mem_singleton.1 hc]
      exact ⟨rfl, _, hs finfo hf, rfl⟩
    · exact ⟨hdl, harm⟩
  · exact ⟨hdl, harm⟩

/-- Arming the single files keeps every directory target, and each single file becomes a child of
its directory's target or is marked on its own. -/
theorem addSingleFiles_complete (P : Platform) (w : FileWatch) (b : Bool) (cid : String)
    (dirList : AList (fun _ : String => DirTarget)) (singleFiles : List FileInfoExt)
    (hb : w.bEnable = true) :
  Grows dirList (w.addSingleFiles P b cid dirList singleFiles).1 ∧
    ∀ s ∈ singleFiles, InDir P (w.addSingleFiles P b cid dirList singleFiles).1 s.path ∨
      ∃ c ∈ (w.addSingleFiles P b cid dirList singleFiles).2.2, c.MarksFile P s.path
  := by
  have hbe := (addSingleFiles_armsFrom P w b cid dirList singleFiles).1.bEnable.trans hb
  revert hbe
  unfold addSingleFiles
  intro hbe
  refine (foldl_grows _
    (fun acc acc' : AList (fun _ : String => DirTarget) × FileWatch × List Call =>
      Grows acc.1 acc'.1 ∧ acc'.2.1.bEnable = acc.2.1.bEnable ∧ acc.2.2 ⊆ acc'.2.2)
    (fun (s : FileInfoExt) (acc : AList (fun _ : String => DirTarget) × FileWatch × List Call) =>
      acc.2.1.bEnable = true → InDir P acc.1 s.path ∨ ∃ c ∈ acc.2.2, c.MarksFile P s.path)
    (fun _ => ⟨Grows.refl _, rfl, List.Subset.refl _⟩)
    (fun h₁ h₂ => ⟨h₁.1.trans h₂.1, h₂.2.1.trans h₁.2.1, h₁.2.2.trans h₂.2.2⟩) ?_ ?_ ?_ _ _).imp
    (fun h => h.1) fun h s hs => h s hs hbe
  · intro acc finfo
    dsimp only
    split
    · split
      · exact ⟨grows_insert fun dt hdt => by simp_all, rfl, List.Subset.refl _⟩
      · exact ⟨Grows.refl _, rfl, List.subset_append_left _ _⟩
    · exact ⟨Grows.refl _, rfl, List.subset_append_left _ _⟩
  · rintro s acc acc' ⟨hg, hbe', hcs⟩ hQ hb'
    exact (hQ (hbe'.symm.trans hb')).imp hg.inDir fun ⟨c, hc, hm⟩ => ⟨c, hcs hc, hm⟩
  · intro acc finfo
    have harmed : acc.2.1.bEnable = true → ∃ c ∈ acc.2.2 ++ (acc.2.1.addSingle b cid finfo).2,
        c.MarksFile P finfo.path := fun hb' =>
      (addSingle_marks P acc.2.1 b cid finfo hb').imp fun c ⟨hc, hm⟩ =>
        ⟨List.mem_append_right _ hc, hm⟩
    dsimp only
    split
    · split
      · exact fun _ => .inl ⟨_, AList.lookup_insert _, _,
          List.mem_append_right _ (List.mem_singleton_self _), rfl⟩
      · exact fun hb' => .inr (harmed hb')
    · exact fun hb' => .inr (harmed hb')

/-- Arming the directory targets arms only selected directories, naming only selected files of
each. -/
theorem addDirs_sound (w : FileWatch) (b : Bool) (cid : String) {dirs : List DirTarget}
    (h : ∀ dt ∈ dirs, DirEntryOk P pid filters res dt.info.path dt) :
  ∀ c ∈ (w.addDirs P b cid dirs).2, c.ArmsSelected P pid filters res
  := by
  unfold addDirs
  refine List.foldlRecOn (motive := fun acc : FileWatch × List Call =>
      ∀ c ∈ acc.2, c.ArmsSelected P pid filters res)
    _ _ _ (fun _ h => absurd h (List.not_mem_nil _)) ?_
  intro acc hacc dt hdt
  obtain ⟨-, hdir, hch⟩ := h dt hdt
  have hnames : ∀ name ∈ ((addChildren P acc.1 cid dt.children).1.entries.map
      fun e => (e.1, e.2)).map Prod.fst,
      ∃ p, IsSelectedFile P pid filters res p ∧ P.dir p = dt.info.path ∧ P.base p = name := by
    intro name hn
    rw [names_eq_keys] at hn
    obtain ⟨c, hc, rfl⟩ := (mem_addChildren P acc.1 cid dt.children name).1 (AList.mem_keys.2 hn)
    exact ⟨c.path, (hch c hc).2, (hch c hc).1, rfl⟩
  have hfan : ∀ id, (Call.fanAddMonitorDirFile dt.info.path dt.info.filter dt.info.protect
      dt.info.userAdded (((addChildren P acc.1 cid dt.children).1.entries.map
        fun e => (e.1, e.2))) id).ArmsSelected P pid filters res :=
    fun _ => ⟨⟨dt.info, hdir, rfl, rfl, rfl, rfl⟩, hnames⟩
  have hino : ∀ id, (Call.inoAddMonitorDirFile dt.info.path id).ArmsSelected P pid filters res :=
    fun _ => ⟨dt.info, hdir, rfl⟩
  dsimp only
  rw [addDir_alloc]
  refine List.forall_mem_append.2 ⟨hacc, ?_⟩
  split_ifs <;> simp [hfan, hino]

/-- Arming sound targets arms only what the filters select. -/
theorem addCoreFile_sound (w : FileWatch) (b : Bool) (cid : String)
    {dirList : AList (fun _ : String => DirTarget)} {singleFiles : List FileInfoExt}
    (h : DirsOk P pid filters res dirList)
    (hs : ∀ s ∈ singleFiles, IsFileTarget P pid filters res s) :
  ∀ c ∈ (w.addCoreFile P b cid dirList singleFiles).2, c.ArmsSelected P pid filters res
  := by
  obtain ⟨hdl, hcs⟩ := addSingleFiles_sound w b cid h hs
  refine List.forall_mem_append.2 ⟨hcs, addDirs_sound _ b cid fun _ hdt => ?_⟩
  obtain ⟨⟨k, dt⟩, he, rfl⟩ := List.mem_map.1 hdt
  obtain ⟨rfl, hrest⟩ := hdl.of_mem he
  exact ⟨rfl, hrest⟩

end Arming

/-- Every directory target is armed on fanotify by a call on its path that names each of its
children. -/
theorem addDirs_complete (P : Platform) (w : FileWatch) (b : Bool) (cid : String)
    (dirs : List DirTarget) (hb : w.bEnable = true) :
  ∀ dt ∈ dirs, ∃ files id,
    .fanAddMonitorDirFile dt.info.path dt.info.filter dt.info.protect dt.info.userAdded files id ∈
      (w.addDirs P b cid dirs).2 ∧ ∀ c ∈ dt.children, P.base c.path ∈ files.map Prod.fst
  := by
  have hbe := (addDirs_armsFrom P w b cid dirs).1.bEnable.trans hb
  revert hbe
  unfold addDirs
  intro hbe
  refine fun dt hdt => (foldl_grows _
    (fun acc acc' : FileWatch × List Call => acc'.1.bEnable = acc.1.bEnable ∧ acc.2 ⊆ acc'.2)
    (fun (dt : DirTarget) (acc : FileWatch × List Call) => acc.1.bEnable = true → ∃ files id,
      Call.fanAddMonitorDirFile dt.info.path dt.info.filter dt.info.protect dt.info.userAdded
        files id ∈ acc.2 ∧ ∀ c ∈ dt.children, P.base c.path ∈ files.map Prod.fst)
    (fun _ => ⟨rfl, List.Subset.refl _⟩) (fun h₁ h₂ => ⟨h₂.1.trans h₁.1, h₁.2.trans h₂.2⟩)
    ?_ ?_ ?_ _ _).2 dt hdt hbe
  · intro acc dt
    exact ⟨(addChildren_recordsOnly P acc.1 cid dt.children).bEnable, List.subset_append_left _ _⟩
  · rintro dt acc acc' ⟨hbe', hs⟩ hQ hb'
    obtain ⟨files, id, hc, hn⟩ := hQ (hbe'.symm.trans hb')
    exact ⟨files, id, hs hc, hn⟩
  · intro acc dt hb'
    have hb'' : (addChildren P acc.1 cid dt.children).2.bEnable = true := hb'
    dsimp only
    rw [addDir_alloc, if_pos hb'']
    refine ⟨_, _, List.mem_append_right _ (List.mem_cons_self _ _), fun c hc => ?_⟩
    rw [names_eq_keys]
    exact AList.mem_keys.1 ((mem_addChildren P acc.1 cid dt.children _).2 ⟨c, hc, rfl⟩)

/-- On an enabled monitor, arming sound targets marks every directory target, and every file that
is a child of a directory target or a single file. -/
theorem addCoreFile_complete {P : Platform} {pid : Int} {filters : List CLUSFileMonitorFilter}
    {res : WalkPathResult} (w : FileWatch) (b : Bool) (cid : String)
    {dirList : AList (fun _ : String => DirTarget)} {singleFiles : List FileInfoExt}
    (hb : w.bEnable = true) (h : DirsOk P pid filters res dirList)
    (hs : ∀ s ∈ singleFiles, IsFileTarget P pid filters res s) :
  (∀ k ∈ dirList, ∃ c ∈ (w.addCoreFile P b cid dirList singleFiles).2, c.MarksDir k) ∧
    ∀ p, Covers P (dirList, singleFiles) p →
      ∃ c ∈ (w.addCoreFile P b cid dirList singleFiles).2, c.MarksFile P p
  := by
  obtain ⟨hdl, -⟩ := addSingleFiles_sound w b cid h hs
  obtain ⟨hg, hsingles⟩ := addSingleFiles_complete P w b cid dirList singleFiles hb
  have hdirs := addDirs_complete P (w.addSingleFiles P b cid dirList singleFiles).2.1 b cid
    ((w.addSingleFiles P b cid dirList singleFiles).1.entries.map (·.2))
    ((addSingleFiles_armsFrom P w b cid dirList singleFiles).1.bEnable.trans hb)
  -- the call of a directory target marks the directory and each of its children
  have hat : ∀ k dt, (w.addSingleFiles P b cid dirList singleFiles).1.lookup k = some dt →
      ∃ c ∈ (w.addCoreFile P b cid dirList singleFiles).2,
        c.MarksDir k ∧ ∀ ch ∈ dt.children, c.MarksFile P ch.path := by
    intro k dt hdt
    obtain ⟨files, id, hc, hnames⟩ :=
      hdirs dt (List.mem_map.2 ⟨⟨k, dt⟩, AList.mem_lookup_iff.1 hdt, rfl⟩)
    obtain ⟨hk, -, hch⟩ := hdl k dt hdt
    exact ⟨_, List.mem_append_right _ hc, hk,
      fun ch hch' => ⟨hk.trans (hch ch hch').1.symm, hnames ch hch'⟩⟩
  refine ⟨fun k hk => ?_, fun p hp => ?_⟩
  · obtain ⟨dt, hdt⟩ := Option.isSome_iff_exists.1 (AList.lookup_isSome.2 (hg.mem hk))
    obtain ⟨c, hc, hm, -⟩ := hat k dt hdt
    exact ⟨c, hc, hm⟩
  · rcases hp with hp | ⟨s, hs', rfl⟩
    · obtain ⟨dt, hdt, ch, hch, rfl⟩ := hg.inDir hp
      obtain ⟨c, hc, -, hm⟩ := hat _ dt hdt
      exact ⟨c, hc, hm ch hch⟩
    · rcases hsingles s hs' with ⟨dt, hdt, ch, hch, hp⟩ | ⟨c, hc, hm⟩
      · obtain ⟨c, hc, -, hm⟩ := hat _ dt hdt
        exact ⟨c, hc, hp ▸ hm ch hch⟩
      · exact ⟨c, List.mem_append_left _ hc, hm⟩

/-! ### `StartWatch` -/

@[simp]
theorem startProfile_filters (profile : CLUSFileMonitorProfile) :
  (startProfile profile).filters = profile.filters
  := by
  unfold startProfile
  split <;> rfl

@[simp]
theorem startProfile_filtersCRD (profile : CLUSFileMonitorProfile) :
  (startProfile profile).filtersCRD = profile.filtersCRD
  := by
  unfold startProfile
  split <;> rfl

theorem getRootFsDirs_startProfile (P : Platform) (profile : CLUSFileMonitorProfile) :
  getRootFsDirs P (startProfile profile) = getRootFsDirs P profile
  := by
  simp only [getRootFsDirs, startProfile_filters, startProfile_filtersCRD]

theorem updateAccessRules_armedPath (w : FileWatch) (rootPid : Int) (conf : CLUSFileAccessRule) :
  ∀ c ∈ (w.updateAccessRules rootPid conf).2, c.armedPath = none
  := by
  unfold updateAccessRules
  split_ifs
  · simp
  · split <;> simp [Call.armedPath]

theorem startWatch_calls_nil (P : Platform) (host : Host) (w : FileWatch) (id : String)
    (rootPid : Int) (conf : FsmonConfig) (capBlock bNeuvectorSvc : Bool) (now : Int)
    (h : ¬(w.bEnable = true ∧ host.isPidValid rootPid = true)) :
  (w.startWatch P host id rootPid conf capBlock bNeuvectorSvc now).2 = []
  := by
  by_cases hb : w.bEnable = true
  · simp [startWatch, hb, show host.isPidValid rootPid = false by simpa [hb] using h]
  · simp [startWatch, hb]

/-- On an enabled monitor and a live root process, the calls of `StartWatch` are those of arming
the targets of the container, between calls that arm nothing. -/
theorem startWatch_calls (P : Platform) (host : Host) (w : FileWatch) (id : String) (rootPid : Int)
    (conf : FsmonConfig) (capBlock bNeuvectorSvc : Bool) (now : Int) (hb : w.bEnable = true)
    (hv : host.isPidValid rootPid = true) :
  ∃ pre post, (w.startWatch P host id rootPid conf capBlock bNeuvectorSvc now).2 =
      pre :: (w.addCoreFile P (!bNeuvectorSvc) id
        (getCoreFile P host rootPid (startProfile conf.profile)).1
        (getCoreFile P host rootPid (startProfile conf.profile)).2).2 ++ post ∧
      pre.armedPath = none ∧ ∀ c ∈ post, c.armedPath = none
  := by
  simp only [startWatch, hb, hv, Bool.not_true, Bool.false_eq_true, ite_false]
  split
  · exact ⟨_, _, rfl, rfl, by simp [Call.armedPath]⟩
  · split
    · refine ⟨_, _, List.append_assoc _ _ _, rfl, ?_⟩
      simp only [List.singleton_append, List.forall_mem_cons]
      exact ⟨rfl, updateAccessRules_armedPath _ _ _⟩
    · exact ⟨_, _, rfl, rfl, by simp [Call.armedPath]⟩

/-- Whatever the walk of the container finds, every call of `StartWatch` arms only what the
filters of the container's profile select: a file on its own is the record a filter builds for a
walked file it selects, with that filter, protection and origin; a directory is the record of a
walked directory a filter selects, and its call names only files of that directory that a filter
selects.  Its other calls arm nothing. -/
theorem startWatch_arms_only_selected (P : Platform) (host : Host) (w : FileWatch) (id : String)
    (rootPid : Int) (conf : FsmonConfig) (capBlock bNeuvectorSvc : Bool) (now : Int)
    (res : WalkPathResult) (hwalk : host.walk rootPid (getRootFsDirs P conf.profile) = some res) :
  ∀ c ∈ (w.startWatch P host id rootPid conf capBlock bNeuvectorSvc now).2,
    c.ArmsSelected P rootPid (conf.profile.filters ++ conf.profile.filtersCRD) res
  := by
  rw [← getRootFsDirs_startProfile] at hwalk
  obtain ⟨hdl, hs⟩ := getCoreFile_sound P host rootPid _ res hwalk
  simp only [startProfile_filters, startProfile_filtersCRD] at hdl hs
  have harm := addCoreFile_sound w (!bNeuvectorSvc) id hdl hs
  by_cases hbv : w.bEnable = true ∧ host.isPidValid rootPid = true
  swap
  · simp [startWatch_calls_nil P host w id rootPid conf capBlock bNeuvectorSvc now hbv]
  obtain ⟨pre, post, h, hpre, hpost⟩ :=
    startWatch_calls P host w id rootPid conf capBlock bNeuvectorSvc now hbv.1 hbv.2
  rw [h]
  intro c hc
  simp only [List.cons_append, List.mem_cons, List.mem_append] at hc
  rcases hc with rfl | hc | hc
  · exact Call.armsSelected_of_armedPath hpre
  · exact harm c hc
  · exact Call.armsSelected_of_armedPath (hpost c hc)

/-- A walk of a container that finds `/etc/passwd` alone. -/
def passwdWalk : WalkPathResult :=
  ⟨[], [⟨"/etc/passwd", 0⟩]⟩

/-- `StartWatch` of a container whose walk finds `/etc/passwd`, under a filter on that file, arms
it on fanotify with the record the filter builds for it. -/
theorem passwd_armed_as_selected :
  (liveHost (fun _ => none) (some passwdWalk)).walk 7
      (getRootFsDirs (Platform.single 7) (groupConf policyModeLearn [fileFilter "/etc/passwd"]).profile) =
    some passwdWalk ∧
  Call.fanAddMonitorFile "/etc/passwd" (filterRegexOf (Platform.single 7) (fileFilter "/etc/passwd"))
      false true 0 ∈
    (enabledWatch.startWatch (Platform.single 7) (liveHost (fun _ => none) (some passwdWalk)) "c" 7
      (groupConf policyModeLearn [fileFilter "/etc/passwd"]) false false 0).2 ∧
  (Call.fanAddMonitorFile "/etc/passwd" (filterRegexOf (Platform.single 7) (fileFilter "/etc/passwd"))
      false true 0).ArmsSelected (Platform.single 7) 7 [fileFilter "/etc/passwd"] passwdWalk
  := by
  have hmem : Call.fanAddMonitorFile "/etc/passwd"
      (filterRegexOf (Platform.single 7) (fileFilter "/etc/passwd")) false true 0 ∈
      (enabledWatch.startWatch (Platform.single 7) (liveHost (fun _ => none) (some passwdWalk)) "c" 7
        (groupConf policyModeLearn [fileFilter "/etc/passwd"]) false false 0).2 := by
    decide
  exact ⟨rfl, hmem, startWatch_arms_only_selected _ _ _ _ _ _ _ _ _ _ rfl _ hmem⟩

/-- On an enabled monitor and a live root process, whatever the walk of the container finds,
`StartWatch` marks on fanotify every walked directory that a filter of the container's profile
selects, by a call of its own, and every walked file that a filter selects, on its own or named in
the call of its directory. -/
theorem startWatch_marks_selected (P : Platform) (host : Host) (w : FileWatch) (id : String)
    (rootPid : Int) (conf : FsmonConfig) (capBlock bNeuvectorSvc : Bool) (now : Int)
    (res : WalkPathResult) (hb : w.bEnable = true) (hv : host.isPidValid rootPid = true)
    (hwalk : host.walk rootPid (getRootFsDirs P conf.profile) = some res) :
  (∀ flt ∈ conf.profile.filters ++ conf.profile.filtersCRD, ∀ d ∈ res.dirs,
    dirSelects flt d.dir = true →
      ∃ c ∈ (w.startWatch P host id rootPid conf capBlock bNeuvectorSvc now).2,
        c.MarksDir (P.containerFilePath rootPid d.dir)) ∧
  ∀ flt ∈ conf.profile.filters ++ conf.profile.filtersCRD, ∀ f ∈ res.files,
    fileSelects P flt f.file = true →
      ∃ c ∈ (w.startWatch P host id rootPid conf capBlock bNeuvectorSvc now).2,
        c.MarksFile P (P.containerFilePath rootPid f.file)
  := by
  rw [← getRootFsDirs_startProfile] at hwalk
  obtain ⟨hdl, hs⟩ := getCoreFile_sound P host rootPid _ res hwalk
  have hsel := getCoreFile_complete P host rootPid _ res hwalk
  simp only [startProfile_filters, startProfile_filtersCRD] at hdl hs hsel
  obtain ⟨hdirs, hfiles⟩ := addCoreFile_complete w (!bNeuvectorSvc) id hb hdl hs
  have hin : ∀ c ∈ (w.addCoreFile P (!bNeuvectorSvc) id
      (getCoreFile P host rootPid (startProfile conf.profile)).1
      (getCoreFile P host rootPid (startProfile conf.profile)).2).2,
      c ∈ (w.startWatch P host id rootPid conf capBlock bNeuvectorSvc now).2 := by
    obtain ⟨pre, post, h, -, -⟩ :=
      startWatch_calls P host w id rootPid conf capBlock bNeuvectorSvc now hb hv
    intro c hc
    rw [h]
    simp [hc]
  exact ⟨fun flt hflt d hd hd' => (hdirs _ ((hsel flt hflt).1 d hd hd')).imp fun c ⟨hc, hm⟩ =>
      ⟨hin c hc, hm⟩,
    fun flt hflt f hf hf' => (hfiles _ ((hsel flt hflt).2 f hf hf')).imp fun c ⟨hc, hm⟩ =>
      ⟨hin c hc, hm⟩⟩

/-- `StartWatch` of a container whose walk finds `/etc/passwd`, under a filter on that file, marks
the file on fanotify. -/
theorem passwd_marked :
  enabledWatch.bEnable = true ∧ (liveHost (fun _ => none) (some passwdWalk)).isPidValid 7 = true ∧
  (liveHost (fun _ => none) (some passwdWalk)).walk 7
      (getRootFsDirs (Platform.single 7) (groupConf policyModeLearn [fileFilter "/etc/passwd"]).profile) =
    some passwdWalk ∧
  ∃ c ∈ (enabledWatch.startWatch (Platform.single 7) (liveHost (fun _ => none) (some passwdWalk)) "c" 7
      (groupConf policyModeLearn [fileFilter "/etc/passwd"]) false false 0).2,
    c.MarksFile (Platform.single 7) "/etc/passwd"
  := ⟨rfl, rfl, rfl, (startWatch_marks_selected (Platform.single 7) _ enabledWatch "c" 7 _ false false 0
    passwdWalk rfl rfl rfl).2 (fileFilter "/etc/passwd") (List.mem_cons_self _ _) ⟨"/etc/passwd", 0⟩
    (List.mem_singleton_self _) (by decide)⟩

end FileWatch

end Fsmon
