import Fsmon.Drivers

/-!
# The aggregator

`cbNotify` merges each event a driver reports into the pending `fileMod` of its path,
`HandleWatchedFiles` swaps the map of pending entries for an empty one and hands the old entries
to the classifier, and `ContainerCleanup` deletes the pending entries of a container.  Each of
the three runs under `FileWatch.mux`, so a run of the aggregator is a sequence of `AggOp`s.

The abstract model `expectedEntry` says what a batch holds for a path: the events accepted on
it since the previous swap and since the last cleanup of its container, their masks joined, the
record of the first of them and the first process of each pid.  `AggOp`s act on the abstract
model as on `fileEvents` (`expectedEntry_append_notify`, `expectedEntry_append_cleanup`), so
every batch of every run is the abstract one (`aggRun_batch_spec`).
-/

namespace Fsmon

/-! ### The three critical sections -/

/-- Whether `cbNotify` takes an event for a watch removal (`IN_IGNORED` or `IN_UNMOUNT`). -/
def isRemovalMask (mask : Nat) : Bool :=
  mask &&& inIgnored != 0 || mask &&& inUnmount != 0

/-- The entry `cbNotify` leaves for a path whose pending entry was `entry`: the masks joined and
the process appended unless its pid is already there, or a new entry. -/
def mergedEntry (entry : Option FileMod) (mask : Nat) (params : RecId)
    (pInfo : Option ProcInfo) : FileMod :=
  match entry with
  | some fm =>
    { fm with
      mask := fm.mask ||| mask
      delay := 0
      pInfo := match pInfo with
        | some p => if fm.pInfo.any (·.pid == p.pid) then fm.pInfo else fm.pInfo ++ [p]
        | none => fm.pInfo }
  | none => ⟨mask, 0, params, pInfo.toList⟩

/-- The critical section of `cbNotify`. -/
def mergeEvent (fileEvents : AList (fun _ : String => FileMod)) (filePath : String) (mask : Nat)
    (params : RecId) (pInfo : Option ProcInfo) : AList (fun _ : String => FileMod) :=
  fileEvents.insert filePath (mergedEntry (fileEvents.lookup filePath) mask params pInfo)

/-- `cbNotify`: a watch removal disarms the path, any other event is merged. -/
def FileWatch.cbNotify (w : FileWatch) (filePath : String) (mask : Nat) (params : RecId)
    (pInfo : Option ProcInfo) : FileWatch × List Call :=
  if isRemovalMask mask then (w, removeFile filePath)
  else ({ w with fileEvents := mergeEvent w.fileEvents filePath mask params pInfo }, [])

/-- The loop of `ContainerCleanup` over `fileEvents`: delete the entries of `rootPid`. -/
def cleanupEvents (P : Platform) (rootPid : Int)
    (fileEvents : AList (fun _ : String => FileMod)) : AList (fun _ : String => FileMod) :=
  fileEvents.keys.foldl
    (fun m path => if (P.parseContainerFilePath path).1 = rootPid then m.erase path else m)
    fileEvents

/-- The clone at the start of `HandleWatchedFiles`: the entries handed to the range. -/
def cloneEvents (fileEvents : AList (fun _ : String => FileMod)) : List (String × FileMod) :=
  fileEvents.entries.map fun e => (e.1, e.2)

/-! ### Runs of the aggregator -/

/-- A critical section on `fileEvents`: a driver's `cbNotify`, the swap of `HandleWatchedFiles`,
or the loop of `ContainerCleanup`. -/
inductive AggOp where
  | notify (filePath : String) (mask : Nat) (params : RecId) (pInfo : Option ProcInfo)
  | swap
  | cleanup (rootPid : Int)
  deriving DecidableEq

/-- `fileEvents` after one critical section. -/
def aggStep (P : Platform) (m : AList (fun _ : String => FileMod)) :
    AggOp → AList (fun _ : String => FileMod)
  | .notify q mask params pInfo => if isRemovalMask mask then m else mergeEvent m q mask params pInfo
  | .swap => ∅
  | .cleanup r => cleanupEvents P r m

/-- `fileEvents` after a run of critical sections on a fresh `FileWatch`. -/
def aggRun (P : Platform) (ops : List AggOp) : AList (fun _ : String => FileMod) :=
  ops.foldl (aggStep P) ∅

@[simp]
theorem aggRun_nil (P : Platform) :
  aggRun P [] = ∅
  := rfl

@[simp]
theorem aggRun_append_singleton (P : Platform) (ops : List AggOp) (op : AggOp) :
  aggRun P (ops ++ [op]) = aggStep P (aggRun P ops) op
  := by
  simp [aggRun]

/-- `cbNotify` acts on `fileEvents` as its `AggOp`. -/
theorem FileWatch.cbNotify_fileEvents (P : Platform) (w : FileWatch) (q : String) (mask : Nat)
    (params : RecId) (pInfo : Option ProcInfo) :
  (w.cbNotify q mask params pInfo).1.fileEvents = aggStep P w.fileEvents (.notify q mask params pInfo)
  := by
  by_cases h : isRemovalMask mask <;> simp [FileWatch.cbNotify, aggStep, h]

/-! ### The abstract model -/

/-- The first `ProcInfo` of each pid, in arrival order: the members no earlier member shares
its pid with. -/
def firstPerPid : List ProcInfo → List ProcInfo
  | [] => []
  | p :: ps => p :: (firstPerPid ps).filter (·.pid != p.pid)

/-- The ops after the last swap: the window whose events the next swap hands on. -/
def lastWindow (ops : List AggOp) : List AggOp :=
  (ops.reverse.takeWhile (· != .swap)).reverse

/-- The ops after the last cleanup of `rootPid`. -/
def afterCleanup (rootPid : Int) (ops : List AggOp) : List AggOp :=
  (ops.reverse.takeWhile (· != .cleanup rootPid)).reverse

/-- The events on `p` among `ops` that are no watch removal: their mask, params and process. -/
def acceptedOn (p : String) : List AggOp → List (Nat × RecId × Option ProcInfo)
  | [] => []
  | .notify q mask params pInfo :: ops =>
    (if q = p ∧ isRemovalMask mask = false then [(mask, params, pInfo)] else []) ++
      acceptedOn p ops
  | _ :: ops => acceptedOn p ops

/-- The entry a list of events makes: none for no event, else the join of their masks, the
params of the first and the first process of each pid. -/
def joinEvents : List (Nat × RecId × Option ProcInfo) → Option FileMod
  | [] => none
  | e :: es =>
    some ⟨((e :: es).map (·.1)).foldl (· ||| ·) 0, 0, e.2.1, firstPerPid ((e :: es).filterMap (·.2.2))⟩

/-- What a batch holds for `p` after the ops of its window: the entry of the events accepted on
`p` since the last cleanup of its container. -/
def expectedEntry (P : Platform) (window : List AggOp) (p : String) : Option FileMod :=
  joinEvents (acceptedOn p (afterCleanup (P.parseContainerFilePath p).1 window))

/-! ### Lemmas on the abstract model -/

theorem any_firstPerPid (l : List ProcInfo) (x : Int) :
  (firstPerPid l).any (·.pid == x) = l.any (·.pid == x)
  := by
  induction l with
  | nil => rfl
  | cons p ps ih =>
    by_cases h : p.pid = x
    · simp [firstPerPid, h]
    · have hf : (fun a : ProcInfo => a.pid != p.pid && a.pid == x) = (·.pid == x) := by
        funext a
        by_cases ha : a.pid = x <;> simp [ha, Ne.symm h]
      simp only [firstPerPid, List.any_cons, List.any_filter, hf, ih]

theorem firstPerPid_eq_nil (l : List ProcInfo) :
  firstPerPid l = [] ↔ l = []
  := by
  cases l <;> simp [firstPerPid]

/-- The first `ProcInfo`s of the pids are of distinct pids. -/
theorem nodup_pid_firstPerPid (l : List ProcInfo) :
  ((firstPerPid l).map (·.pid)).Nodup
  := by
  induction l with
  | nil => exact List.nodup_nil
  | cons p ps ih =>
    rw [firstPerPid, List.map_cons, List.nodup_cons]
    exact ⟨by simp, ih.sublist ((List.filter_sublist _).map _)⟩

theorem firstPerPid_append_singleton (l : List ProcInfo) (x : ProcInfo) :
  firstPerPid (l ++ [x])
    = if l.any (·.pid == x.pid) then firstPerPid l else firstPerPid l ++ [x]
  := by
  induction l with
  | nil => simp [firstPerPid]
  | cons p ps ih =>
    rw [List.cons_append, firstPerPid, ih, firstPerPid, List.any_cons]
    rcases eq_or_ne p.pid x.pid with h | h
    · cases ps.any (·.pid == x.pid) <;> simp [h, List.filter_append]
    · cases ps.any (·.pid == x.pid) <;> simp [h, h.symm, List.filter_append]

theorem lor_eq_zero_iff {x y : Nat} :
  x ||| y = 0 ↔ x = 0 ∧ y = 0
  := by
  refine ⟨fun h => ?_, fun ⟨hx, hy⟩ => by simp [hx, hy]⟩
  have hbit (i : Nat) : x.testBit i = false ∧ y.testBit i = false := by
    have := Nat.testBit_or x y i
    rw [h, Nat.zero_testBit] at this
    simpa using this.symm
  exact ⟨Nat.eq_of_testBit_eq fun i => by simp [(hbit i).1],
    Nat.eq_of_testBit_eq fun i => by simp [(hbit i).2]⟩

theorem isRemovalMask_or (a b : Nat) :
  isRemovalMask (a ||| b) = (isRemovalMask a || isRemovalMask b)
  := by
  rw [Bool.eq_iff_iff]
  simp only [isRemovalMask, Nat.and_distrib_right, Bool.or_eq_true, bne_iff_ne, ne_eq,
    lor_eq_zero_iff]
  tauto

theorem lastWindow_append_swap (ops : List AggOp) :
  lastWindow (ops ++ [.swap]) = []
  := by
  simp [lastWindow]

theorem lastWindow_append_of_ne (ops : List AggOp) {op : AggOp} (h : op ≠ .swap) :
  lastWindow (ops ++ [op]) = lastWindow ops ++ [op]
  := by
  simp [lastWindow, List.takeWhile_cons, h]

theorem afterCleanup_append_self (r : Int) (ops : List AggOp) :
  afterCleanup r (ops ++ [.cleanup r]) = []
  := by
  simp [afterCleanup]

theorem afterCleanup_append_of_ne (r : Int) (ops : List AggOp) {op : AggOp}
    (h : op ≠ .cleanup r) :
  afterCleanup r (ops ++ [op]) = afterCleanup r ops ++ [op]
  := by
  simp [afterCleanup, List.takeWhile_cons, h]

theorem acceptedOn_append (p : String) (l₁ l₂ : List AggOp) :
  acceptedOn p (l₁ ++ l₂) = acceptedOn p l₁ ++ acceptedOn p l₂
  := by
  induction l₁ with
  | nil => rfl
  | cons op ops ih => cases op <;> simp [acceptedOn, ih]

/-! ### The abstract model steps as `fileEvents` does -/

theorem expectedEntry_append_cleanup (P : Platform) (w : List AggOp) (r : Int) (p : String) :
  expectedEntry P (w ++ [.cleanup r]) p
    = if (P.parseContainerFilePath p).1 = r then none else expectedEntry P w p
  := by
  unfold expectedEntry
  split_ifs with h
  · rw [← h, afterCleanup_append_self]
    rfl
  · rw [afterCleanup_append_of_ne _ _ (fun e => h (AggOp.cleanup.inj e).symm), acceptedOn_append]
    simp [acceptedOn]

theorem expectedEntry_append_notify_other (P : Platform) (w : List AggOp) {q p : String}
    (mask : Nat) (params : RecId) (pInfo : Option ProcInfo) (h : q ≠ p ∨ isRemovalMask mask) :
  expectedEntry P (w ++ [.notify q mask params pInfo]) p = expectedEntry P w p
  := by
  unfold expectedEntry
  rw [afterCleanup_append_of_ne _ _ AggOp.noConfusion, acceptedOn_append]
  rcases h with h | h <;> simp [acceptedOn, h]

theorem joinEvents_append_singleton (l : List (Nat × RecId × Option ProcInfo)) (mask : Nat)
    (params : RecId) (pInfo : Option ProcInfo) :
  joinEvents (l ++ [(mask, params, pInfo)]) = some (mergedEntry (joinEvents l) mask params pInfo)
  := by
  cases l with
  | nil => cases pInfo <;> simp [joinEvents, mergedEntry, firstPerPid]
  | cons e es =>
    rw [List.cons_append, joinEvents, joinEvents, ← List.cons_append]
    simp only [List.map_append, List.foldl_append, List.filterMap_append, mergedEntry]
    cases pInfo with
    | none => simp
    | some x =>
      simp only [List.filterMap_cons, List.filterMap_nil, firstPerPid_append_singleton]
      rw [any_firstPerPid]
      simp

theorem expectedEntry_append_notify (P : Platform) (w : List AggOp) (p : String) (mask : Nat)
    (params : RecId) (pInfo : Option ProcInfo) (h : isRemovalMask mask = false) :
  expectedEntry P (w ++ [.notify p mask params pInfo]) p
    = some (mergedEntry (expectedEntry P w p) mask params pInfo)
  := by
  unfold expectedEntry
  rw [afterCleanup_append_of_ne _ _ AggOp.noConfusion, acceptedOn_append]
  simp only [acceptedOn, h, and_self, if_true, List.append_nil, joinEvents_append_singleton]

/-! ### Lookups in `fileEvents` -/

@[simp]
theorem lookup_mergeEvent_self (m : AList (fun _ : String => FileMod)) (p : String) (mask : Nat)
    (params : RecId) (pInfo : Option ProcInfo) :
  (mergeEvent m p mask params pInfo).lookup p = some (mergedEntry (m.lookup p) mask params pInfo)
  := AList.lookup_insert _

theorem lookup_mergeEvent_ne (m : AList (fun _ : String => FileMod)) {q p : String}
    (mask : Nat) (params : RecId) (pInfo : Option ProcInfo) (h : p ≠ q) :
  (mergeEvent m q mask params pInfo).lookup p = m.lookup p
  := AList.lookup_insert_ne h

theorem lookup_cleanupEvents (P : Platform) (r : Int) (m : AList (fun _ : String => FileMod))
    (p : String) :
  (cleanupEvents P r m).lookup p
    = if (P.parseContainerFilePath p).1 = r then none else m.lookup p
  := by
  have key : ∀ (ks : List String) (m : AList (fun _ : String => FileMod)),
      (ks.foldl (fun m path => if (P.parseContainerFilePath path).1 = r then m.erase path else m)
        m).lookup p = if p ∈ ks ∧ (P.parseContainerFilePath p).1 = r then none else m.lookup p := by
    intro ks
    induction ks with
    | nil => simp
    | cons k ks ih =>
      intro m
      rw [List.foldl_cons, ih]
      by_cases hpk : p = k
      · subst hpk
        split_ifs <;> simp_all [AList.lookup_erase]
      · split_ifs <;> simp_all [AList.lookup_erase_ne]
  rw [cleanupEvents, key]
  by_cases hp : p ∈ m.keys
  · simp [hp]
  · simp [hp, AList.lookup_eq_none.2 (AList.mem_keys.not.2 hp)]

theorem lookup_cloneEvents (m : AList (fun _ : String => FileMod)) (p : String) :
  (cloneEvents m).lookup p = m.lookup p
  := by
  unfold cloneEvents AList.lookup
  induction m.entries with
  | nil => rfl
  | cons e es ih =>
    obtain ⟨k, v⟩ := e
    by_cases h : p = k
    · subst h
      simp [List.lookup_cons_self, List.dlookup_cons_eq]
    · have hb : (p == k) = false := by simpa using h
      simp [List.lookup_cons, hb, List.dlookup_cons_ne es ⟨k, v⟩ h, ih]

/-! ### Every batch is the abstract one -/

theorem aggRun_lookup (P : Platform) (ops : List AggOp) (p : String) :
  (aggRun P ops).lookup p = expectedEntry P (lastWindow ops) p
  := by
  induction ops using List.reverseRecOn with
  | nil => rfl
  | append_singleton ops op ih =>
    rw [aggRun_append_singleton]
    cases op with
    | notify q mask params pInfo =>
      rw [lastWindow_append_of_ne _ AggOp.noConfusion, aggStep]
      split_ifs with hr
      · rw [expectedEntry_append_notify_other P _ _ _ _ (Or.inr hr), ih]
      · by_cases hq : q = p
        · subst hq
          rw [lookup_mergeEvent_self, ih, expectedEntry_append_notify P _ _ _ _ _ (by simpa using hr)]
        · rw [lookup_mergeEvent_ne _ _ _ _ (Ne.symm hq), ih,
            expectedEntry_append_notify_other P _ _ _ _ (Or.inl hq)]
    | swap => simp [lastWindow_append_swap, aggStep, expectedEntry, afterCleanup, acceptedOn,
        joinEvents]
    | cleanup r =>
      rw [lastWindow_append_of_ne _ AggOp.noConfusion, aggStep, lookup_cleanupEvents, ih,
        expectedEntry_append_cleanup]

theorem acceptedOn_mask (p : String) (ops : List AggOp) :
  ∀ x ∈ acceptedOn p ops, isRemovalMask x.1 = false
  := by
  induction ops with
  | nil => simp [acceptedOn]
  | cons op ops ih =>
    cases op <;> simp only [acceptedOn, List.mem_append]
    · intro x hx
      split_ifs at hx with hc
      · rcases hx with hx | hx
        · simp only [List.mem_singleton] at hx
          exact hx ▸ hc.2
        · exact ih x hx
      · exact ih x (by simpa using hx)
    all_goals exact ih

theorem foldl_or_mask (ms : List Nat) (a : Nat) (ha : isRemovalMask a = false)
    (hms : ∀ m ∈ ms, isRemovalMask m = false) :
  isRemovalMask (ms.foldl (· ||| ·) a) = false
  := by
  induction ms generalizing a with
  | nil => simpa using ha
  | cons m ms ih =>
    exact ih _ (by simp [isRemovalMask_or, ha, hms m (by simp)]) (fun m' hm' => hms m' (by simp [hm']))

theorem expectedEntry_mask (P : Platform) (w : List AggOp) (p : String) {e : FileMod}
    (h : expectedEntry P w p = some e) :
  isRemovalMask e.mask = false
  := by
  unfold expectedEntry at h
  have hacc := acceptedOn_mask p (afterCleanup (P.parseContainerFilePath p).1 w)
  generalize acceptedOn p _ = l at h hacc
  cases l with
  | nil => simp [joinEvents] at h
  | cons e' es =>
    simp only [joinEvents, Option.some.injEq] at h
    subst h
    exact foldl_or_mask _ 0 (by decide) (by simpa using hacc)

/-- The processes of an entry: the first `ProcInfo` of each pid among the events accepted on
its path. -/
theorem expectedEntry_pInfo (P : Platform) (w : List AggOp) (p : String) {e : FileMod}
    (h : expectedEntry P w p = some e) :
  e.pInfo = firstPerPid
    ((acceptedOn p (afterCleanup (P.parseContainerFilePath p).1 w)).filterMap (·.2.2))
  := by
  unfold expectedEntry at h
  generalize acceptedOn p _ = l at h ⊢
  cases l with
  | nil => simp [joinEvents] at h
  | cons e' es =>
    simp only [joinEvents, Option.some.injEq] at h
    rw [← h]

/-- Every batch of every run of the aggregator: after any sequence `ops` of `cbNotify`s, swaps
and cleanups on a fresh `FileWatch`, the batch the next swap hands to the classifier holds, for
each path `p`, exactly the abstract entry of the events accepted on `p` since the previous swap
and since the last cleanup of `p`'s container; and no entry of it has `IN_IGNORED` or
`IN_UNMOUNT` set. -/
theorem aggRun_batch_spec (P : Platform) (ops : List AggOp) :
  (∀ p, (cloneEvents (aggRun P ops)).lookup p = expectedEntry P (lastWindow ops) p) ∧
  ∀ e ∈ cloneEvents (aggRun P ops), isRemovalMask e.2.mask = false
  := by
  refine ⟨fun p => by rw [lookup_cloneEvents, aggRun_lookup], fun e he => ?_⟩
  obtain ⟨⟨k, v⟩, hkv, rfl⟩ := List.mem_map.1 he
  have hl : (aggRun P ops).lookup k = some v := AList.mem_lookup_iff.2 hkv
  rw [aggRun_lookup] at hl
  exact expectedEntry_mask P _ k hl

end Fsmon
