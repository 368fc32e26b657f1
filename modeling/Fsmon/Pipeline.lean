import Fsmon.Machine

/-!
# The flush pipeline

Pending events leave `fileEvents` by a swap, which hands them to the flush as its batch, or by
a cleanup; the flush then takes the entries of its batch one at a time (`classifiedBy`), and
only a step of the flush changes it (`step_flusher_of_not_flushes`).

Every step keeps the entries of the flush well formed (`FlushOk`): the batch holds one entry
per path, no entry holds two `ProcInfo`s of one pid, and the event the flush carries to
`learnFromEvents` is one `sendMsg` has a message for (`entriesOk_run`).
-/

namespace Fsmon

/-- The entries the flush still has to classify. -/
def Flusher.batch : Flusher → List (String × FileMod)
  | .handling batch | .learning batch .. | .sending batch .. => batch

/-- The entry the flush carries to `learnFromEvents`, with its event. -/
def Flusher.current : Flusher → Option (FileMod × Nat)
  | .learning _ fmod _ _ event | .sending _ fmod _ _ event .. => some (fmod, event)
  | .handling _ => none

/-- Whether the action is a step of the flush. -/
def Action.flushes : Action → Bool
  | .swap | .classify .. | .learn | .send _ => true
  | _ => false

namespace FileWatch

/-! ### What a step does to the flush -/

theorem step_flusher_of_not_flushes (P : Platform) (w : FileWatch) (a : Action)
    (ha : a.flushes = false) :
  (w.step P a).1.flusher = w.flusher
  := by
  cases hb : w.bEnable
  · rw [step_of_disabled P w a hb]
  cases a <;> simp only [Action.flushes, Bool.true_eq_false] at ha
  · exact (startWatch_frame ..).2.2
  · exact (updateAccessRules_frame ..).2.2.1
  · simp [containerCleanup, hb]
  · rw [step_notify P w hb]
    unfold cbNotify
    split_ifs <;> rfl
  · rw [step_alert P w hb]
  · rw [step_report P w hb]
    exact (reportNext_frame w).2.2

theorem handleWatchedFiles_flusher (w : FileWatch) :
  w.handleWatchedFiles.flusher =
    if w.flusher.idle then .handling (cloneEvents w.fileEvents) else w.flusher
  := by
  unfold handleWatchedFiles
  split
  · next hf => simp [hf, Flusher.idle]
  · next hf => simp [Flusher.idle_eq_false hf]

/-- The classify step of the flush: nothing when its batch has no `i`-th entry, else it takes
the entry out of the batch and, when it classifies it to an event, carries it on. -/
theorem classifyNext_flusher (P : Platform) (host : Host) (w : FileWatch) (i : Nat) :
  ((w.classifyNext P host i).1.flusher = w.flusher ∧
    ∀ b, w.flusher = .handling b → b.get? i = none) ∨
  ∃ b e, w.flusher = .handling b ∧ b.get? i = some e ∧
    ((w.classifyNext P host i).1.flusher = .handling (b.eraseIdx i) ∨
      (classifyEntry P host w e.1 e.2).1 ≠ 0 ∧
      (w.classifyNext P host i).1.flusher =
        .learning (b.eraseIdx i) e.2 (P.parseContainerFilePath e.1).1
          (P.parseContainerFilePath e.1).2 (classifyEntry P host w e.1 e.2).1)
  := by
  unfold classifyNext
  split
  · next b hf =>
    split
    · next fullPath fmod he =>
      refine .inr ⟨b, (fullPath, fmod), hf, he, ?_⟩
      dsimp only
      split_ifs with hc
      · exact .inr ⟨by simpa using hc, rfl⟩
      · exact .inl rfl
    · next he => exact .inl ⟨rfl, fun b' hb' => by rw [hf] at hb'; cases hb'; exact he⟩
  · next hf => exact .inl ⟨rfl, fun b hb' => absurd hb' (hf b)⟩

/-- The critical section of `learnFromEvents` keeps the rest of the batch and the entry. -/
theorem learnNext_flusher (P : Platform) (w : FileWatch) :
  (w.learnNext P).flusher = w.flusher ∨
  ∃ b fmod pid path event, w.flusher = .learning b fmod pid path event ∧
    ((w.learnNext P).flusher = .handling b ∨
      ∃ mode startAt, (w.learnNext P).flusher = .sending b fmod pid path event mode startAt)
  := by
  unfold learnNext
  split
  · next b fmod pid path event hf =>
    refine .inr ⟨b, fmod, pid, path, event, hf, ?_⟩
    split
    · exact .inl rfl
    · exact .inr ⟨_, _, rfl⟩
  · exact .inl rfl

theorem sendNext_flusher (P : Platform) (w : FileWatch) (now : Int) :
  (w.sendNext P now).1.flusher = w.flusher ∨
  ∃ b fmod pid path event mode startAt, w.flusher = .sending b fmod pid path event mode startAt ∧
    (w.sendNext P now).1.flusher = .handling b
  := by
  unfold sendNext
  split
  · next b fmod pid path event mode startAt hf => exact .inr ⟨_, _, _, _, _, _, _, hf, rfl⟩
  · exact .inl rfl

/-! ### The entry a classify step takes -/

/-- The entry a classify step takes out of the batch. -/
def classifiedBy (w : FileWatch) : Action → List (String × FileMod)
  | .classify i _ =>
    match w.bEnable, w.flusher with
    | true, .handling batch => (batch.get? i).toList
    | _, _ => []
  | _ => []

/-! ### Well-formed entries -/

theorem cloneEvents_paths (m : AList (fun _ : String => FileMod)) :
  (cloneEvents m).map (·.1) = m.keys
  := by
  simp [cloneEvents, AList.keys, List.keys]

theorem lookup_of_mem_cloneEvents {m : AList (fun _ : String => FileMod)}
    {e : String × FileMod} (he : e ∈ cloneEvents m) :
  m.lookup e.1 = some e.2
  := by
  obtain ⟨⟨k, v⟩, hkv, rfl⟩ := List.mem_map.1 he
  exact AList.mem_lookup_iff.2 hkv

/-- The flush's entries are well formed: its batch holds one entry per path and no entry with
two `ProcInfo`s of one pid, and the event it carries to `learnFromEvents` is one `sendMsg` has a
message for. -/
structure FlushOk (f : Flusher) : Prop where
  paths : (f.batch.map (·.1)).Nodup
  batch : ∀ e ∈ f.batch, (e.2.pInfo.map (·.pid)).Nodup
  current : ∀ fmod event, f.current = some (fmod, event) →
    (fmod.pInfo.map (·.pid)).Nodup ∧ HasEventMsg event

/-- What the monitor keeps of its entries in every state it reaches: no pending entry holds two
`ProcInfo`s of one pid, and the flush is well formed. -/
structure EntriesOk (w : FileWatch) : Prop where
  pending : ∀ p fmod, w.fileEvents.lookup p = some fmod → (fmod.pInfo.map (·.pid)).Nodup
  flush : FlushOk w.flusher

/-- The pending entries of every reachable state are the aggregator's, whose `ProcInfo`s are the
first of each pid. -/
theorem pending_pids_nodup (P : Platform) (bEnable aufs : Bool)
    (estRuleSrc : String → String → Bool → String) (as : List Action) (p : String)
    (fmod : FileMod)
    (h : ((FileWatch.init bEnable aufs estRuleSrc).run P as).1.fileEvents.lookup p = some fmod) :
  (fmod.pInfo.map (·.pid)).Nodup
  := by
  rw [run_fileEvents] at h
  change (aggRun P _).lookup p = some fmod at h
  rw [aggRun_lookup] at h
  rw [expectedEntry_pInfo P _ p h]
  exact nodup_pid_firstPerPid _

/-- A step keeps the flush well formed, given that the pending entries it reaches are. -/
theorem entriesOk_step (P : Platform) (w : FileWatch) (a : Action) (h : EntriesOk w)
    (hpend : ∀ p fmod, (w.step P a).1.fileEvents.lookup p = some fmod →
      (fmod.pInfo.map (·.pid)).Nodup) :
  EntriesOk (w.step P a).1
  := by
  refine ⟨hpend, ?_⟩
  cases hb : w.bEnable
  · rw [step_of_disabled P w a hb]
    exact h.flush
  cases a with
  | swap =>
    rw [step_swap P w hb, handleWatchedFiles_flusher]
    split_ifs
    · exact ⟨by rw [Flusher.batch, cloneEvents_paths]; exact AList.keys_nodup _,
        fun e he => h.pending _ _ (lookup_of_mem_cloneEvents he), fun _ _ hc => by cases hc⟩
    · exact h.flush
  | classify i host =>
    rw [step_classify P w hb]
    rcases classifyNext_flusher P host w i with ⟨hf, -⟩ | ⟨b, e, hf, he, hnext⟩
    · exact hf ▸ h.flush
    have hok := h.flush
    rw [hf] at hok
    have hpaths : ((b.eraseIdx i).map (·.1)).Nodup :=
      hok.paths.sublist ((List.eraseIdx_sublist b i).map _)
    have hbatch : ∀ x ∈ b.eraseIdx i, (x.2.pInfo.map (·.pid)).Nodup :=
      fun x hx => hok.batch x (List.mem_of_mem_eraseIdx hx)
    rcases hnext with hn | ⟨hc, hn⟩ <;> rw [hn]
    · exact ⟨hpaths, hbatch, fun _ _ hc => by cases hc⟩
    · refine ⟨hpaths, hbatch, fun fmod event hc' => ?_⟩
      cases hc'
      exact ⟨hok.batch e (List.get?_mem he),
        (classifyEntry_spec P host w e.1 e.2).1.resolve_left hc⟩
  | learn =>
    rw [step_learn P w hb]
    rcases learnNext_flusher P w with hn | ⟨b, fmod, pid, path, event, hf, hn | ⟨mode, startAt, hn⟩⟩
    · exact hn ▸ h.flush
    all_goals
      have hok := h.flush
      rw [hf] at hok
      rw [hn]
    · exact ⟨hok.paths, hok.batch, fun _ _ hc => by cases hc⟩
    · exact ⟨hok.paths, hok.batch, fun _ _ hc => by cases hc; exact hok.current _ _ rfl⟩
  | send now =>
    rw [step_send P w hb]
    rcases sendNext_flusher P w now with hn | ⟨b, fmod, pid, path, event, mode, startAt, hf, hn⟩
    · exact hn ▸ h.flush
    · have hok := h.flush
      rw [hf] at hok
      rw [hn]
      exact ⟨hok.paths, hok.batch, fun _ _ hc => by cases hc⟩
  | _ =>
    simp only [step_flusher_of_not_flushes, Action.flushes]
    exact h.flush

/-- Every state the monitor reaches keeps its entries well formed (`EntriesOk`): so `sendMsg`
reports no process of an entry twice, the flush classifies no path twice in one batch, and
`sendMsg` never meets an event it has no message for. -/
theorem entriesOk_run (P : Platform) (bEnable aufs : Bool)
    (estRuleSrc : String → String → Bool → String) (as : List Action) :
  EntriesOk ((FileWatch.init bEnable aufs estRuleSrc).run P as).1
  := by
  induction as using List.reverseRecOn with
  | nil =>
    exact ⟨fun _ _ h => by simp [FileWatch.init] at h,
      ⟨List.nodup_nil, fun _ h => (List.not_mem_nil _ h).elim, fun _ _ h => by cases h⟩⟩
  | append_singleton as a ih =>
    have hrun : ((FileWatch.init bEnable aufs estRuleSrc).run P (as ++ [a])).1 =
        (((FileWatch.init bEnable aufs estRuleSrc).run P as).1.step P a).1 := by
      rw [run_append]
      rfl
    rw [hrun]
    exact entriesOk_step P _ a ih fun p fmod hp =>
      pending_pids_nodup P bEnable aufs estRuleSrc (as ++ [a]) p fmod (hrun ▸ hp)

end FileWatch

end Fsmon
