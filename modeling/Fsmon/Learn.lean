import Fsmon.Filter

/-!
# The learning engine

The access rules of a group come from the controller (`UpdateAccessRules` rebuilds `applyRules`);
in Learn mode, `learnFromEvents` adds the process paths of an event to `learnRules` under the key
of every customer filter that matches the path, through `addLearnedRules`; every ten seconds
`reportLearningRules` sends what was learned to the controller and empties `learnRules`.

Each operation is given here on one group, with one lemma saying what it does to the learned
and applied paths of every filter key (`mem_learned_addLearnedRules`,
`mem_learned_learnGroup`), and what a report sends is read off the pending learned rules
(`reportedRules_eq_map`).
-/

namespace Fsmon

/-! ### The rules of a group -/

/-- The process paths learned for a filter key. -/
def GroupInfo.learned (grp : GroupInfo) (k : String) : List String :=
  ((grp.learnRules.lookup k).map StrSet.elems).getD []

/-- The process paths applied for a filter key. -/
def GroupInfo.applied (grp : GroupInfo) (k : String) : List String :=
  ((grp.applyRules.lookup k).map StrSet.elems).getD []

/-- The loop of `addLearnedRules`: each non-empty process path that is neither applied nor
learned yet is added to the learned set. -/
def learnPaths (applyRules : StrSet) (pInfo : List ProcInfo) (learnRules : StrSet) : StrSet :=
  pInfo.foldl (fun learnRules pf =>
      if pf.path != "" && !applyRules.contains pf.path && !learnRules.contains pf.path then
        learnRules.add pf.path
      else learnRules) learnRules

/-- `addLearnedRules`: a filter that has access rules learns the paths of the event's processes
under its key. -/
def addLearnedRules (grp : GroupInfo) (flt : CLUSFileMonitorFilter) (pInfo : List ProcInfo) :
    GroupInfo :=
  let index := filterIndexKey flt
  match grp.applyRules.lookup index with
  | some applyRules =>
    let learnRules := learnPaths applyRules pInfo ((grp.learnRules.lookup index).getD StrSet.empty)
    if learnRules.cardinality > 0 then { grp with learnRules := grp.learnRules.insert index learnRules }
    else grp
  | none => grp

/-- The body of a filter loop of `learnFromEvents`: a customer filter that matches the path
learns the event's processes. -/
def learnStep (P : Platform) (path : String) (pInfo : List ProcInfo) (grp : GroupInfo)
    (flt : CLUSFileMonitorFilter) : GroupInfo :=
  if flt.customerAdd && filterPathMatch P path flt then addLearnedRules grp flt pInfo else grp

/-- A filter loop of `learnFromEvents`. -/
def learnFilters (P : Platform) (path : String) (pInfo : List ProcInfo) (grp : GroupInfo)
    (flts : List CLUSFileMonitorFilter) : GroupInfo :=
  flts.foldl (learnStep P path pInfo) grp

/-- The critical section of `learnFromEvents` on the event's group: in Learn mode and with
processes, the loop over `Filters`, then the loop over `FiltersCRD`. -/
def learnGroup (P : Platform) (grp : GroupInfo) (fmod : FileMod) (path : String) : GroupInfo :=
  if grp.mode == policyModeLearn && fmod.pInfo.length > 0 then
    let grp := learnFilters P path fmod.pInfo grp grp.profile.filters
    learnFilters P path fmod.pInfo grp grp.profile.filtersCRD
  else grp

/-- The `applyRules` `UpdateAccessRules` builds: the apps of every customer rule, by key. -/
def applyRulesOf (conf : CLUSFileAccessRule) : AList (fun _ : String => StrSet) :=
  conf.filters.foldl
    (fun m rule => if rule.2.customerAdd then m.insert rule.1 (StrSet.ofList rule.2.apps) else m) ∅

/-- A group whose learned rules `reportLearningRules` took: emptied when it had any. -/
def takeLearned (grp : GroupInfo) : GroupInfo :=
  if grp.learnRules.entries.length > 0 then { grp with learnRules := ∅ } else grp

/-- The learned rules of a group as `reportLearningRules` sends them: one request per learned
process path of each key, under the group's name. -/
def learnedRuleReqs (grp : GroupInfo) : List CLUSFileAccessRuleReq :=
  grp.learnRules.entries.flatMap fun e => e.2.elems.map fun prf => ⟨grp.profile.group, e.1, prf⟩

/-! ### What one group learns -/

theorem mem_learnPaths (applyRules : StrSet) (pInfo : List ProcInfo) (s : StrSet) (q : String) :
  q ∈ (learnPaths applyRules pInfo s).elems
    ↔ q ∈ s.elems ∨ (q ≠ "" ∧ q ∉ applyRules.elems ∧ q ∈ pInfo.map (·.path))
  := by
  induction pInfo generalizing s with
  | nil => simp [learnPaths]
  | cons pf pfs ih =>
    rw [learnPaths, List.foldl_cons, ← learnPaths, ih]
    split_ifs with h
    · simp only [Bool.and_eq_true, bne_iff_ne, ne_eq, Bool.not_eq_true', StrSet.contains,
        decide_eq_false_iff_not] at h
      rw [StrSet.mem_add]
      constructor
      · rintro ((rfl | hq) | ⟨hq, ha, hm⟩)
        · exact Or.inr ⟨h.1.1, h.1.2, by simp⟩
        · exact Or.inl hq
        · exact Or.inr ⟨hq, ha, by simp [hm]⟩
      · rintro (hq | ⟨hq, ha, hm⟩)
        · exact Or.inl (Or.inr hq)
        · simp only [List.map_cons, List.mem_cons] at hm
          rcases hm with rfl | hm
          · exact Or.inl (Or.inl rfl)
          · exact Or.inr ⟨hq, ha, hm⟩
    · simp only [Bool.and_eq_true, bne_iff_ne, ne_eq, Bool.not_eq_true', StrSet.contains,
        decide_eq_false_iff_not, not_and, not_not] at h
      constructor
      · rintro (hq | ⟨hq, ha, hm⟩)
        · exact Or.inl hq
        · exact Or.inr ⟨hq, ha, by simp [hm]⟩
      · rintro (hq | ⟨hq, ha, hm⟩)
        · exact Or.inl hq
        · simp only [List.map_cons, List.mem_cons] at hm
          rcases hm with rfl | hm
          · by_cases hin : pf.path ∈ applyRules.elems
            · exact absurd hin ha
            · exact Or.inl (h ⟨hq, hin⟩)
          · exact Or.inr ⟨hq, ha, hm⟩

theorem addLearnedRules_eq (grp : GroupInfo) (flt : CLUSFileMonitorFilter)
    (pInfo : List ProcInfo) :
  ∃ lr, addLearnedRules grp flt pInfo = { grp with learnRules := lr }
  := by
  rcases h : grp.applyRules.lookup (filterIndexKey flt) with _ | applyRules <;>
    simp only [addLearnedRules, h]
  · exact ⟨grp.learnRules, rfl⟩
  · split_ifs
    · exact ⟨_, rfl⟩
    · exact ⟨grp.learnRules, rfl⟩

@[simp]
theorem addLearnedRules_applyRules (grp : GroupInfo) (flt : CLUSFileMonitorFilter)
    (pInfo : List ProcInfo) :
  (addLearnedRules grp flt pInfo).applyRules = grp.applyRules
  := by
  obtain ⟨lr, h⟩ := addLearnedRules_eq grp flt pInfo
  rw [h]

@[simp]
theorem addLearnedRules_profile (grp : GroupInfo) (flt : CLUSFileMonitorFilter)
    (pInfo : List ProcInfo) :
  (addLearnedRules grp flt pInfo).profile = grp.profile
  := by
  obtain ⟨lr, h⟩ := addLearnedRules_eq grp flt pInfo
  rw [h]

@[simp]
theorem addLearnedRules_mode (grp : GroupInfo) (flt : CLUSFileMonitorFilter)
    (pInfo : List ProcInfo) :
  (addLearnedRules grp flt pInfo).mode = grp.mode
  := by
  obtain ⟨lr, h⟩ := addLearnedRules_eq grp flt pInfo
  rw [h]

theorem learned_eq_getD (grp : GroupInfo) (k : String) :
  grp.learned k = ((grp.learnRules.lookup k).getD StrSet.empty).elems
  := by
  unfold GroupInfo.learned
  cases grp.learnRules.lookup k <;> rfl

/-- What `addLearnedRules` learns: under the filter's key, when it has access rules, each
non-empty process path of the event that they do not allow. -/
theorem mem_learned_addLearnedRules (grp : GroupInfo) (flt : CLUSFileMonitorFilter)
    (pInfo : List ProcInfo) (k q : String) :
  q ∈ (addLearnedRules grp flt pInfo).learned k ↔
    q ∈ grp.learned k ∨
      (k = filterIndexKey flt ∧ ∃ s, grp.applyRules.lookup k = some s ∧ q ≠ "" ∧ q ∉ s.elems ∧
        q ∈ pInfo.map (·.path))
  := by
  rcases ha : grp.applyRules.lookup (filterIndexKey flt) with _ | applyRules <;>
    simp only [addLearnedRules, ha]
  · refine ⟨Or.inl, ?_⟩
    rintro (h | ⟨rfl, s, hs, -⟩)
    · exact h
    · simp [ha] at hs
  · have hfold := mem_learnPaths applyRules pInfo
      ((grp.learnRules.lookup (filterIndexKey flt)).getD StrSet.empty) q
    rw [← learned_eq_getD] at hfold
    have hex : (∃ s, grp.applyRules.lookup (filterIndexKey flt) = some s ∧ q ≠ "" ∧ q ∉ s.elems ∧
        q ∈ pInfo.map (·.path)) ↔ q ≠ "" ∧ q ∉ applyRules.elems ∧ q ∈ pInfo.map (·.path) := by
      simp [ha]
    split_ifs with hc
    · by_cases hk : k = filterIndexKey flt
      · subst hk
        simp only [GroupInfo.learned, AList.lookup_insert, Option.map_some', Option.getD_some,
          hfold, true_and, hex]
      · simp [GroupInfo.learned, AList.lookup_insert_ne hk, hk]
    · have hnil : q ∉ (learnPaths applyRules pInfo
          ((grp.learnRules.lookup (filterIndexKey flt)).getD StrSet.empty)).elems := by
        rw [List.eq_nil_of_length_eq_zero (Nat.eq_zero_of_not_pos hc)]
        exact List.not_mem_nil q
      rw [hfold] at hnil
      refine ⟨Or.inl, ?_⟩
      rintro (h | ⟨rfl, h⟩)
      · exact h
      · exact absurd (Or.inr (hex.1 h)) hnil

/-! ### What the learning section learns -/

/-- The conditions under which learning an access on `path` by the processes `pInfo` adds `q`
under the key `k` through the filter `flt`: a customer filter that matches the path and has the
key `k`, access rules under `k` that do not allow `q`, and `q` a non-empty process path of the
event. -/
def LearnsThrough (P : Platform) (applyRules : AList (fun _ : String => StrSet)) (path : String)
    (pInfo : List ProcInfo) (k q : String) (flt : CLUSFileMonitorFilter) : Prop :=
  flt.customerAdd = true ∧ filterPathMatch P path flt = true ∧ k = filterIndexKey flt ∧
    ∃ s, applyRules.lookup k = some s ∧ q ≠ "" ∧ q ∉ s.elems ∧ q ∈ pInfo.map (·.path)

theorem learnStep_eq (P : Platform) (path : String) (pInfo : List ProcInfo) (grp : GroupInfo)
    (flt : CLUSFileMonitorFilter) :
  ∃ lr, learnStep P path pInfo grp flt = { grp with learnRules := lr }
  := by
  unfold learnStep
  split_ifs
  · exact addLearnedRules_eq grp flt pInfo
  · exact ⟨grp.learnRules, rfl⟩

theorem learnFilters_eq (P : Platform) (path : String) (pInfo : List ProcInfo) (grp : GroupInfo)
    (flts : List CLUSFileMonitorFilter) :
  ∃ lr, learnFilters P path pInfo grp flts = { grp with learnRules := lr }
  := by
  induction flts generalizing grp with
  | nil => exact ⟨grp.learnRules, rfl⟩
  | cons flt flts ih =>
    obtain ⟨lr₁, h₁⟩ := learnStep_eq P path pInfo grp flt
    obtain ⟨lr₂, h₂⟩ := ih (learnStep P path pInfo grp flt)
    exact ⟨lr₂, by rw [learnFilters, List.foldl_cons, ← learnFilters, h₂, h₁]⟩

/-- The learning section only writes `learnRules`. -/
theorem learnGroup_eq (P : Platform) (grp : GroupInfo) (fmod : FileMod) (path : String) :
  ∃ lr, learnGroup P grp fmod path = { grp with learnRules := lr }
  := by
  unfold learnGroup
  split_ifs
  · obtain ⟨lr₁, h₁⟩ := learnFilters_eq P path fmod.pInfo grp grp.profile.filters
    obtain ⟨lr₂, h₂⟩ := learnFilters_eq P path fmod.pInfo { grp with learnRules := lr₁ }
      grp.profile.filtersCRD
    exact ⟨lr₂, by simp only [h₁, h₂]⟩
  · exact ⟨grp.learnRules, rfl⟩

@[simp]
theorem learnStep_applyRules (P : Platform) (path : String) (pInfo : List ProcInfo)
    (grp : GroupInfo) (flt : CLUSFileMonitorFilter) :
  (learnStep P path pInfo grp flt).applyRules = grp.applyRules
  := by
  obtain ⟨lr, h⟩ := learnStep_eq P path pInfo grp flt
  rw [h]

@[simp]
theorem learnFilters_applyRules (P : Platform) (path : String) (pInfo : List ProcInfo)
    (grp : GroupInfo) (flts : List CLUSFileMonitorFilter) :
  (learnFilters P path pInfo grp flts).applyRules = grp.applyRules
  := by
  obtain ⟨lr, h⟩ := learnFilters_eq P path pInfo grp flts
  rw [h]

theorem mem_learned_learnStep (P : Platform) (path : String) (pInfo : List ProcInfo)
    (grp : GroupInfo) (flt : CLUSFileMonitorFilter) (k q : String) :
  q ∈ (learnStep P path pInfo grp flt).learned k ↔
    q ∈ grp.learned k ∨ LearnsThrough P grp.applyRules path pInfo k q flt
  := by
  unfold learnStep LearnsThrough
  split_ifs with hc
  · simp only [Bool.and_eq_true] at hc
    simp only [mem_learned_addLearnedRules, hc, true_and]
  · simp only [Bool.and_eq_true, not_and] at hc
    exact ⟨Or.inl, fun h => h.elim id fun ⟨ha, hm, _⟩ => absurd hm (hc ha)⟩

theorem mem_learned_learnFilters (P : Platform) (path : String) (pInfo : List ProcInfo)
    (grp : GroupInfo) (flts : List CLUSFileMonitorFilter) (k q : String) :
  q ∈ (learnFilters P path pInfo grp flts).learned k ↔
    q ∈ grp.learned k ∨ ∃ flt ∈ flts, LearnsThrough P grp.applyRules path pInfo k q flt
  := by
  induction flts generalizing grp with
  | nil => simp [learnFilters]
  | cons flt flts ih =>
    rw [learnFilters, List.foldl_cons, ← learnFilters, ih, mem_learned_learnStep,
      learnStep_applyRules]
    simp only [List.mem_cons, exists_eq_or_imp]
    tauto

/-- What the learning section of `learnFromEvents` learns: in Learn mode and for an event with
processes, `q` under `k` through some filter of `Filters` or `FiltersCRD`. -/
theorem mem_learned_learnGroup (P : Platform) (grp : GroupInfo) (fmod : FileMod) (path : String)
    (k q : String) :
  q ∈ (learnGroup P grp fmod path).learned k ↔
    q ∈ grp.learned k ∨
      (grp.mode = policyModeLearn ∧ fmod.pInfo ≠ [] ∧
        ∃ flt ∈ grp.profile.filters ++ grp.profile.filtersCRD,
          LearnsThrough P grp.applyRules path fmod.pInfo k q flt)
  := by
  unfold learnGroup
  split_ifs with hc
  · obtain ⟨lr, h⟩ := learnFilters_eq P path fmod.pInfo grp grp.profile.filters
    simp only [Bool.and_eq_true, beq_iff_eq, gt_iff_lt, List.length_pos, decide_eq_true_eq] at hc
    rw [mem_learned_learnFilters, learnFilters_applyRules, mem_learned_learnFilters, h]
    simp only [hc.1, hc.2, ne_eq, not_false_eq_true, true_and, List.mem_append, or_and_right,
      exists_or, or_assoc]
  · simp only [Bool.and_eq_true, beq_iff_eq, gt_iff_lt, List.length_pos, decide_eq_true_eq,
      not_and] at hc
    exact ⟨Or.inl, fun h => h.elim id fun ⟨hm, hp, _⟩ => absurd hp (hc hm)⟩

@[simp]
theorem learnGroup_applyRules (P : Platform) (grp : GroupInfo) (fmod : FileMod) (path : String) :
  (learnGroup P grp fmod path).applyRules = grp.applyRules
  := by
  obtain ⟨lr, h⟩ := learnGroup_eq P grp fmod path
  rw [h]

@[simp]
theorem learnGroup_profile (P : Platform) (grp : GroupInfo) (fmod : FileMod) (path : String) :
  (learnGroup P grp fmod path).profile = grp.profile
  := by
  obtain ⟨lr, h⟩ := learnGroup_eq P grp fmod path
  rw [h]

@[simp]
theorem learnGroup_mode (P : Platform) (grp : GroupInfo) (fmod : FileMod) (path : String) :
  (learnGroup P grp fmod path).mode = grp.mode
  := by
  obtain ⟨lr, h⟩ := learnGroup_eq P grp fmod path
  rw [h]

@[simp]
theorem learnGroup_startAt (P : Platform) (grp : GroupInfo) (fmod : FileMod) (path : String) :
  (learnGroup P grp fmod path).startAt = grp.startAt
  := by
  obtain ⟨lr, h⟩ := learnGroup_eq P grp fmod path
  rw [h]

/-! ### Learned and applied rules stay apart -/

/-- No key of the group has a process path both learned and applied. -/
def GroupInfo.RulesDisjoint (grp : GroupInfo) : Prop :=
  ∀ k q, q ∈ grp.learned k → q ∉ grp.applied k

theorem applied_eq_of_lookup {grp : GroupInfo} {k : String} {s : StrSet}
    (h : grp.applyRules.lookup k = some s) :
  grp.applied k = s.elems
  := by
  simp [GroupInfo.applied, h]

/-- The learning section keeps every key's learned and applied paths apart: it only learns
paths the key's access rules do not allow. -/
theorem learnGroup_rulesDisjoint (P : Platform) (grp : GroupInfo) (fmod : FileMod) (path : String)
    (h : grp.RulesDisjoint) :
  (learnGroup P grp fmod path).RulesDisjoint
  := by
  intro k q hq
  rw [GroupInfo.applied, learnGroup_applyRules, ← GroupInfo.applied]
  rcases (mem_learned_learnGroup P grp fmod path k q).1 hq with
    hq | ⟨-, -, flt, -, ⟨-, -, -, s, hs, -, hqs, -⟩⟩
  · exact h k q hq
  · rwa [applied_eq_of_lookup hs]

theorem takeLearned_rulesDisjoint (grp : GroupInfo) (h : grp.RulesDisjoint) :
  (takeLearned grp).RulesDisjoint
  := by
  unfold takeLearned
  split_ifs
  · simp [GroupInfo.RulesDisjoint, GroupInfo.learned]
  · exact h

/-! ### Pending learned rules -/

/-- The learned rules pending in a group, as (key, process path) pairs. -/
def GroupInfo.pending (grp : GroupInfo) : List (String × String) :=
  grp.learnRules.entries.flatMap fun e => e.2.elems.map (e.1, ·)

theorem GroupInfo.mem_pending (grp : GroupInfo) (k q : String) :
  (k, q) ∈ grp.pending ↔ q ∈ grp.learned k
  := by
  simp only [GroupInfo.pending, List.mem_flatMap, List.mem_map, Prod.mk.injEq, GroupInfo.learned]
  constructor
  · rintro ⟨e, he, q', hq', rfl, rfl⟩
    rw [AList.mem_lookup_iff.2 he]
    exact hq'
  · intro hq
    rcases hl : grp.learnRules.lookup k with _ | s
    · simp [hl] at hq
    · rw [hl] at hq
      exact ⟨⟨k, s⟩, AList.mem_lookup_iff.1 hl, q, hq, rfl, rfl⟩

theorem GroupInfo.nodup_pending (grp : GroupInfo) :
  grp.pending.Nodup
  := by
  refine List.nodup_flatMap.2 ⟨fun e _ => e.2.nodup.map fun a b h => (Prod.mk.inj h).2, ?_⟩
  refine (List.nodupKeys_iff_pairwise.1 grp.learnRules.nodupKeys).imp fun hne => ?_
  simp only [Function.onFun, List.disjoint_left, List.mem_map]
  rintro _ ⟨a, -, rfl⟩ ⟨b, -, hb⟩
  exact hne (Prod.mk.inj hb).1.symm

/-- The learned rules pending in every group, as (root pid, key, process path). -/
def pendingRules (groups : AList (fun _ : Int => GroupInfo)) : List (Int × String × String) :=
  groups.entries.flatMap fun e => e.2.pending.map (e.1, ·)

theorem mem_pendingRules (groups : AList (fun _ : Int => GroupInfo)) (r : Int) (k q : String) :
  (r, k, q) ∈ pendingRules groups ↔ ∃ grp, groups.lookup r = some grp ∧ q ∈ grp.learned k
  := by
  simp only [pendingRules, List.mem_flatMap, List.mem_map, Prod.mk.injEq]
  constructor
  · rintro ⟨e, he, x, hx, rfl, rfl⟩
    exact ⟨e.2, AList.mem_lookup_iff.2 he, (GroupInfo.mem_pending _ _ _).1 hx⟩
  · rintro ⟨grp, hg, hq⟩
    exact ⟨⟨r, grp⟩, AList.mem_lookup_iff.1 hg, (k, q), (GroupInfo.mem_pending _ _ _).2 hq,
      rfl, rfl⟩

theorem nodup_pendingRules (groups : AList (fun _ : Int => GroupInfo)) :
  (pendingRules groups).Nodup
  := by
  refine List.nodup_flatMap.2
    ⟨fun e _ => e.2.nodup_pending.map fun a b h => (Prod.mk.inj h).2, ?_⟩
  refine (List.nodupKeys_iff_pairwise.1 groups.nodupKeys).imp fun hne => ?_
  simp only [Function.onFun, List.disjoint_left, List.mem_map]
  rintro _ ⟨a, -, rfl⟩ ⟨b, -, hb⟩
  exact hne (Prod.mk.inj hb).1.symm

/-- The request `reportLearningRules` makes of a pending rule: the group's name, the key and
the process path. -/
def ruleReq (groups : AList (fun _ : Int => GroupInfo)) (x : Int × String × String) :
    CLUSFileAccessRuleReq :=
  ⟨((groups.lookup x.1).map (·.profile.group)).getD "", x.2.1, x.2.2⟩

/-- What `reportLearningRules` collects is one request per pending rule. -/
theorem reportedRules_eq_map (groups : AList (fun _ : Int => GroupInfo)) :
  groups.entries.flatMap (fun e => learnedRuleReqs e.2) = (pendingRules groups).map (ruleReq groups)
  := by
  rw [pendingRules, List.map_flatMap]
  refine List.flatMap_congr fun e he => ?_
  have hl : groups.lookup e.1 = some e.2 := AList.mem_lookup_iff.2 he
  simp [learnedRuleReqs, GroupInfo.pending, List.map_flatMap, Function.comp_def, ruleReq, hl]

end Fsmon
