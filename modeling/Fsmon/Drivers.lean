import Fsmon.Types

/-!
# Records and the calls that arm them

The heap of `FileInfoExt` records with its reads, writes and allocations, and the three
helpers through which the monitor arms and disarms paths on the two drivers: `addFile`,
`addDir` and `removeFile`.  Each helper returns the driver calls it makes.
-/

namespace Fsmon

namespace FileWatch

/-! ### The heap -/

/-- Write a record through its address, as `fmod.finfo.Hash = hash` and its like do. -/
def setRec (w : FileWatch) (id : RecId) (r : FileInfoExt) : FileWatch :=
  { w with heap := Function.update w.heap id r }

/-- A new record at the first free address. -/
def alloc (w : FileWatch) (r : FileInfoExt) : RecId × FileWatch :=
  (w.nextRec, { w with heap := Function.update w.heap w.nextRec r, nextRec := w.nextRec + 1 })

@[simp]
theorem setRec_heap_self (w : FileWatch) (id : RecId) (r : FileInfoExt) :
  (w.setRec id r).heap id = r
  := by
  simp [setRec]

@[simp]
theorem setRec_heap_ne (w : FileWatch) {id id' : RecId} (r : FileInfoExt) (h : id' ≠ id) :
  (w.setRec id r).heap id' = w.heap id'
  := by
  simp [setRec, h]

@[simp] theorem setRec_bEnable (w : FileWatch) (id : RecId) (r : FileInfoExt) :
  (w.setRec id r).bEnable = w.bEnable := rfl

@[simp] theorem setRec_fileEvents (w : FileWatch) (id : RecId) (r : FileInfoExt) :
  (w.setRec id r).fileEvents = w.fileEvents := rfl

@[simp] theorem setRec_groups (w : FileWatch) (id : RecId) (r : FileInfoExt) :
  (w.setRec id r).groups = w.groups := rfl

@[simp] theorem setRec_flusher (w : FileWatch) (id : RecId) (r : FileInfoExt) :
  (w.setRec id r).flusher = w.flusher := rfl

@[simp] theorem alloc_bEnable (w : FileWatch) (r : FileInfoExt) :
  (w.alloc r).2.bEnable = w.bEnable := rfl

@[simp] theorem alloc_fileEvents (w : FileWatch) (r : FileInfoExt) :
  (w.alloc r).2.fileEvents = w.fileEvents := rfl

@[simp] theorem alloc_groups (w : FileWatch) (r : FileInfoExt) :
  (w.alloc r).2.groups = w.groups := rfl

@[simp] theorem alloc_flusher (w : FileWatch) (r : FileInfoExt) :
  (w.alloc r).2.flusher = w.flusher := rfl

/-- `w'` is `w` with other records: all that arming and classifying write. -/
def RecordsOnly (w w' : FileWatch) : Prop :=
  ∃ (heap : RecId → FileInfoExt) (nextRec : RecId), w' = { w with heap, nextRec }

theorem RecordsOnly.refl (w : FileWatch) :
  RecordsOnly w w
  := ⟨w.heap, w.nextRec, rfl⟩

theorem RecordsOnly.trans {w₁ w₂ w₃ : FileWatch} (h₁ : RecordsOnly w₁ w₂)
    (h₂ : RecordsOnly w₂ w₃) :
  RecordsOnly w₁ w₃
  := by
  obtain ⟨_, _, rfl⟩ := h₁
  obtain ⟨heap, nextRec, rfl⟩ := h₂
  exact ⟨heap, nextRec, rfl⟩

theorem recordsOnly_setRec (w : FileWatch) (id : RecId) (r : FileInfoExt) :
  RecordsOnly w (w.setRec id r)
  := ⟨_, w.nextRec, rfl⟩

theorem recordsOnly_alloc (w : FileWatch) (r : FileInfoExt) :
  RecordsOnly w (w.alloc r).2
  := ⟨_, _, rfl⟩

theorem RecordsOnly.bEnable {w w' : FileWatch} (h : RecordsOnly w w') :
  w'.bEnable = w.bEnable
  := by
  obtain ⟨_, _, rfl⟩ := h
  rfl

theorem RecordsOnly.fileEvents {w w' : FileWatch} (h : RecordsOnly w w') :
  w'.fileEvents = w.fileEvents
  := by
  obtain ⟨_, _, rfl⟩ := h
  rfl

theorem RecordsOnly.groups {w w' : FileWatch} (h : RecordsOnly w w') :
  w'.groups = w.groups
  := by
  obtain ⟨_, _, rfl⟩ := h
  rfl

theorem RecordsOnly.flusher {w w' : FileWatch} (h : RecordsOnly w w') :
  w'.flusher = w.flusher
  := by
  obtain ⟨_, _, rfl⟩ := h
  rfl

/-! ### Arming and disarming -/

/-- `addFile`: mark a file on fanotify and, unless its filter is a `/.*` wildcard whose
directory already covers it, watch it on inotify. -/
def addFile (w : FileWatch) (bIncInotify : Bool) (finfo : RecId) : List Call :=
  if !w.bEnable then []
  else
    let r := w.heap finfo
    .fanAddMonitorFile r.path r.filter r.protect r.userAdded finfo ::
      (if bIncInotify && !hasSuffix r.filter.path "/.*" then [.inoAddMonitorFile r.path finfo]
       else [])

/-- `addDir`: mark a directory and the records of its `files`, already allocated. -/
def addDir (w : FileWatch) (bIncInotify : Bool) (finfo : RecId)
    (files : List (String × RecId)) : List Call :=
  if !w.bEnable then []
  else
    let r := w.heap finfo
    .fanAddMonitorDirFile r.path r.filter r.protect r.userAdded files finfo ::
      (if bIncInotify then [.inoAddMonitorDirFile r.path finfo] else [])

end FileWatch

/-- `removeFile`: drop the mark and the watch of a path. -/
def removeFile (fullpath : String) : List Call :=
  [.fanRemoveMonitorFile fullpath, .inoRemoveMonitorFile fullpath]

/-- Every call `addFile` makes arms the record's path. -/
theorem FileWatch.armedPath_of_mem_addFile (w : FileWatch) (b : Bool) (finfo : RecId) :
  ∀ c ∈ w.addFile b finfo, c.armedPath = some (w.heap finfo).path
  := by
  unfold FileWatch.addFile
  split
  · simp
  · dsimp only
    split <;> simp [Call.armedPath]

/-- Every call `addDir` makes arms the record's path. -/
theorem FileWatch.armedPath_of_mem_addDir (w : FileWatch) (b : Bool) (finfo : RecId)
    (files : List (String × RecId)) :
  ∀ c ∈ w.addDir b finfo files, c.armedPath = some (w.heap finfo).path
  := by
  unfold FileWatch.addDir
  split
  · simp
  · dsimp only
    split <;> simp [Call.armedPath]

/-- `removeFile` arms nothing. -/
theorem armedPath_of_mem_removeFile (p : String) :
  ∀ c ∈ removeFile p, c.armedPath = none
  := by
  simp [removeFile, Call.armedPath]

/-- Whether a call goes to a driver, not to `sendrpt` or `sendRule`. -/
def Call.toDriver : Call → Bool
  | .sendrpt _ | .sendRule _ => false
  | _ => true

theorem toDriver_of_mem_addFile (w : FileWatch) (b : Bool) (finfo : RecId) :
  ∀ c ∈ w.addFile b finfo, c.toDriver
  := fun c hc => by
  have := FileWatch.armedPath_of_mem_addFile w b finfo c hc
  cases c <;> simp_all [Call.armedPath, Call.toDriver]

theorem toDriver_of_mem_addDir (w : FileWatch) (b : Bool) (finfo : RecId)
    (files : List (String × RecId)) :
  ∀ c ∈ w.addDir b finfo files, c.toDriver
  := fun c hc => by
  have := FileWatch.armedPath_of_mem_addDir w b finfo files c hc
  cases c <;> simp_all [Call.armedPath, Call.toDriver]

theorem toDriver_of_mem_removeFile (p : String) :
  ∀ c ∈ removeFile p, c.toDriver
  := by
  simp [removeFile, Call.toDriver]

end Fsmon
