import Fsmon.Lifecycle

/-!
# Learned rules over runs

The learning section of `learnFromEvents` adds rules to the `learnRules` of a group,
`reportLearningRules` hands every pending rule to `sendRule` and empties the groups,
`ContainerCleanup` drops the pending rules of its container, and `UpdateAccessRules` and
`StartWatch` replace the `applyRules` of a group and keep its `learnRules`.

A rule pending in a group leaves it only at the next `reportLearningRules`, which delivers it,
or at a cleanup of its container, which drops it (`mem_pendingRules_step_of_mem`); a rule
becomes pending only through the learning section, on the conditions of `addLearnedRules`
(`inserts_of_mem_insertedBy`).  Over every run the rules inserted are those delivered, those
dropped and those still pending, each once (`learned_rules_delivered_once`).

The learning section, a report and a cleanup keep the learned rules of a group apart from its
access rules, but the access rules `UpdateAccessRules` or `StartWatch` install may allow a rule
learned and not yet reported (`update_allows_pending_learned`).  A run that installs no such
access rules keeps them apart in every state (`rulesDisjoint_of_keepsRulesApart`).
-/

namespace Fsmon

/-! ### Learned and applied rules -/

theorem GroupInfo.learned_congr {g g' : GroupInfo} (h : g.learnRules = g'.learnRules) :
  g.learned = g'.learned
  := by
  funext k
  simp [GroupInfo.learned, h]

theorem GroupInfo.rulesDisjoint_congr {g g' : GroupInfo} (hl : g.learnRules = g'.learnRules)
    (ha : g.applyRules = g'.applyRules) :
  g.RulesDisjoint ↔ g'.RulesDisjoint
  := by
  simp only [GroupInfo.RulesDisjoint, GroupInfo.learned, GroupInfo.applied, hl, ha]

theorem GroupInfo.rulesDisjoint_of_learnRules_empty {g : GroupInfo} (h : g.learnRules = ∅) :
  g.RulesDisjoint
  := by
  intro k q hq
  simp [GroupInfo.learned, h] at hq

theorem takeLearned_learned (grp : GroupInfo) (k : String) :
  (takeLearned grp).learned k = []
  := by
  unfold takeLearned
  split_ifs with h
  · simp [GroupInfo.learned]
  · have he : grp.learnRules.entries = [] := List.eq_nil_of_length_eq_zero (by omega)
    simp [GroupInfo.learned, AList.lookup, he]

/-- Every group keeps its learned and applied rules apart. -/
def FileWatch.AllRulesDisjoint (w : FileWatch) : Prop :=
  ∀ r grp, w.groups.lookup r = some grp → grp.RulesDisjoint

/-- Whether the access rules a step installs allow none of the rules the group has learned and
not yet reported.  Only an enabled monitor installs any: an `UpdateAccessRules` those of its
configuration, and a `StartWatch` those of a configuration with access rules, for a live root
process that is neither the host's nor the agent's own container. -/
def Action.KeepsRulesApart (w : FileWatch) : Action → Prop
  | .updateAccessRules r conf => w.bEnable = true → ∀ grp, w.groups.lookup r = some grp →
      { grp with applyRules := applyRulesOf conf }.RulesDisjoint
  | .startWatch host _ r conf _ bNeuvectorSvc _ => w.bEnable = true →
      host.isPidValid r = true → (bNeuvectorSvc || r == 1) = false →
      ∀ rule grp, conf.rule = some rule → w.groups.lookup r = some grp →
      { grp with applyRules := applyRulesOf rule }.RulesDisjoint
  | _ => True

namespace FileWatch

/-- A run every step of which keeps the access rules it installs apart from the learned ones. -/
def RunKeepsRulesApart (P : Platform) : FileWatch → List Action → Prop
  | _, [] => True
  | w, a :: as => a.KeepsRulesApart w ∧ RunKeepsRulesApart P (w.step P a).1 as

/-- Each step keeps the rules of every group apart, when the access rules it installs do. -/
theorem allRulesDisjoint_step (P : Platform) (w : FileWatch) (a : Action)
    (h : w.AllRulesDisjoint) (ha : a.KeepsRulesApart w) :
  (w.step P a).1.AllRulesDisjoint
  := by
  cases hb : w.bEnable
  · rw [step_of_disabled P w a hb]
    exact h
  intro r grp' hg'
  rcases lookup_step P w a r with hl | ⟨host, id, conf, cb, nv, now, rfl⟩ | ⟨conf, rfl, hl⟩ |
    ⟨bLeave, -, hl⟩ | ⟨-, _, fmod, path, _, grp, -, hg, hl⟩ | ⟨-, hl⟩
  · exact h r grp' (hl ▸ hg')
  · -- startWatch
    rcases lookup_startWatch P host w id r conf cb nv now r with hl | ⟨-, grp, hl, hlearn, -⟩
    · exact h r grp' (hl ▸ hg')
    have happly := lookup_startWatch_applyRules P host w id r conf cb nv now r hb
    rw [step_startWatch, hl, Option.some.injEq] at hg'
    subst hg'
    rcases hold : w.groups.lookup r with _ | old
    · simp only [hold, Option.map_none', Option.getD_none] at hlearn
      exact GroupInfo.rulesDisjoint_of_learnRules_empty hlearn
    simp only [hold, hl, Option.map_some', Option.getD_some, Action.applyRulesFor, true_and]
      at hlearn happly
    have hkeep : some grp.applyRules = some old.applyRules → grp.RulesDisjoint := fun he =>
      (GroupInfo.rulesDisjoint_congr hlearn (Option.some.inj he)).2 (h r old hold)
    rcases hrule : conf.rule with _ | rule <;> simp only [hrule, ite_self] at happly
    · exact hkeep happly
    split_ifs at happly with hv hn
    · exact hkeep happly
    · exact (@GroupInfo.rulesDisjoint_congr grp { old with applyRules := applyRulesOf rule }
        hlearn (Option.some.inj happly)).2 (ha hb hv (Bool.eq_false_iff.2 hn) rule old hrule hold)
    · exact hkeep happly
  · -- updateAccessRules
    rw [hl] at hg'
    obtain ⟨old, hold, rfl⟩ := Option.map_eq_some'.1 hg'
    exact ha hb old hold
  · -- containerCleanup
    rw [hl] at hg'
    split_ifs at hg'
    obtain ⟨old, -, rfl⟩ := Option.map_eq_some'.1 hg'
    exact GroupInfo.rulesDisjoint_of_learnRules_empty rfl
  · -- learn
    rw [hl, Option.some.injEq] at hg'
    exact hg' ▸ learnGroup_rulesDisjoint P grp fmod path (h r grp hg)
  · -- report
    rw [hl] at hg'
    obtain ⟨old, hold, rfl⟩ := Option.map_eq_some'.1 hg'
    exact takeLearned_rulesDisjoint old (h r old hold)

theorem allRulesDisjoint_run (P : Platform) (w : FileWatch) (as : List Action)
    (h : w.AllRulesDisjoint) (hk : RunKeepsRulesApart P w as) :
  (w.run P as).1.AllRulesDisjoint
  := by
  induction as generalizing w with
  | nil => exact h
  | cons a as ih => exact ih _ (allRulesDisjoint_step P w a h hk.1) hk.2

/-- Every state a run from a new monitor reaches keeps the learned and applied rules of each
group apart, when no access rules the run installs allow a rule learned and not yet reported. -/
theorem rulesDisjoint_of_keepsRulesApart (P : Platform) (bEnable aufs : Bool)
    (estRuleSrc : String → String → Bool → String) (as : List Action)
    (hk : RunKeepsRulesApart P (FileWatch.init bEnable aufs estRuleSrc) as) :
  ((FileWatch.init bEnable aufs estRuleSrc).run P as).1.AllRulesDisjoint
  := allRulesDisjoint_run P _ as (fun r grp h => by simp [FileWatch.init] at h) hk

/-- `cat`, run as process 5 in container 7. -/
def catProcess : ProcInfo :=
  ⟨7, "cat", "/usr/bin/cat", ["cat", "/etc/passwd"], 5, 0, "root", 1, "sh", "/bin/sh", false, false⟩

/-- Access rules that allow `apps` under `/etc/passwd/`, the key of `fileFilter "/etc/passwd"`. -/
def passwdRule (apps : List String) : CLUSFileAccessRule :=
  ⟨[("/etc/passwd/", ⟨apps, true⟩)]⟩

/-- Container 7 in Learn mode, with a customer filter on `/etc/passwd` whose access rules allow
nothing; `cat` reads the file, and a flush learns from the read. -/
def learnCat : List Action :=
  [.startWatch (liveHost (fun _ => none) (some ⟨[], [⟨"/etc/passwd", 0⟩]⟩)) "c" 7
     ⟨⟨"g", policyModeLearn, [fileFilter "/etc/passwd"], []⟩, some (passwdRule [])⟩ false false 0,
   .notify "/etc/passwd" inAccess 0 (some catProcess), .swap,
   .classify 0 (liveHost (fun _ => some 1) none), .learn]

theorem rulesDisjoint_of_keepsRulesApart_learnCat :
  (enabledWatch.run (Platform.single 7) learnCat).1.AllRulesDisjoint
  := rulesDisjoint_of_keepsRulesApart (Platform.single 7) true false (fun _ _ _ => "") learnCat
      ⟨fun _ _ _ _ _ _ h => by simp [FileWatch.init] at h, trivial, trivial, trivial, trivial, trivial⟩

/-- An `UpdateAccessRules` that allows `cat` on `/etc/passwd` after a flush learned it and
before `reportLearningRules` took it: the group has `/usr/bin/cat` both learned and applied
under `/etc/passwd/`. -/
theorem update_allows_pending_learned :
  ¬ (enabledWatch.run (Platform.single 7)
      (learnCat ++ [.updateAccessRules 7 (passwdRule ["/usr/bin/cat"])])).1.AllRulesDisjoint
  := by
  intro h
  have hl : ((enabledWatch.run (Platform.single 7) (learnCat ++
      [.updateAccessRules 7 (passwdRule ["/usr/bin/cat"])])).1.groups.lookup 7).map
      (·.learned "/etc/passwd/") = some ["/usr/bin/cat"] := by decide
  have ha : ((enabledWatch.run (Platform.single 7) (learnCat ++
      [.updateAccessRules 7 (passwdRule ["/usr/bin/cat"])])).1.groups.lookup 7).map
      (·.applied "/etc/passwd/") = some ["/usr/bin/cat"] := by decide
  generalize (enabledWatch.run (Platform.single 7) _).1 = w at h hl ha
  obtain ⟨grp, hg, hgl⟩ := Option.map_eq_some'.1 hl
  obtain ⟨grp', hg', hga⟩ := Option.map_eq_some'.1 ha
  rw [hg, Option.some.injEq] at hg'
  subst hg'
  exact h 7 grp hg "/etc/passwd/" "/usr/bin/cat" (by simp [hgl]) (by simp [hga])

end FileWatch

/-! ### The ledger of learned rules -/

/-- Whether a step takes the pending rule `t` out of the groups: a tick of `learnTicker` between
two flushes takes every one, a cleanup those of its container. -/
def Action.takesPending (w : FileWatch) (a : Action) (t : Int × String × String) : Bool :=
  match a with
  | .report => w.bEnable && w.flusher.idle
  | .containerCleanup r _ => w.bEnable && t.1 == r
  | _ => false

namespace FileWatch

/-- The rules a step inserts: pending after it and not before. -/
def insertedBy (P : Platform) (w : FileWatch) (a : Action) : List (Int × String × String) :=
  (pendingRules (w.step P a).1.groups).filter fun t => t ∉ pendingRules w.groups

/-- The rules a step hands to `sendRule`: at a tick of `learnTicker` between two flushes, every
pending one. -/
def deliveredBy (w : FileWatch) (a : Action) : List (Int × String × String) :=
  if a.isReport && w.bEnable && w.flusher.idle then pendingRules w.groups else []

/-- The rules a step drops: the pending ones of the container a cleanup cleans up. -/
def droppedBy (w : FileWatch) : Action → List (Int × String × String)
  | .containerCleanup r _ => if w.bEnable then (pendingRules w.groups).filter (·.1 == r) else []
  | _ => []

/-- The insertion of `t = (r, k, q)` by a step from `w`: the critical section of
`learnFromEvents` on an entry of `r` whose group, in Learn mode, has not learned `q` under `k`,
and learns it through a customer filter of its profile whose key `k` has access rules that do
not allow `q`, a non-empty process path of the entry. -/
def Inserts (P : Platform) (w : FileWatch) (a : Action) (t : Int × String × String) : Prop :=
  a = .learn ∧ ∃ b fmod path event grp, w.flusher = .learning b fmod t.1 path event ∧
    w.groups.lookup t.1 = some grp ∧ grp.mode = policyModeLearn ∧ t.2.2 ∉ grp.learned t.2.1 ∧
    ∃ flt ∈ grp.profile.filters ++ grp.profile.filtersCRD,
      LearnsThrough P grp.applyRules path fmod.pInfo t.2.1 t.2.2 flt

theorem deliveredBy_append_droppedBy (w : FileWatch) (a : Action) :
  w.deliveredBy a ++ w.droppedBy a = (pendingRules w.groups).filter fun t => a.takesPending w t
  := by
  cases hb : w.bEnable <;> cases hi : w.flusher.idle <;> cases a <;>
    simp [deliveredBy, droppedBy, Action.isReport, Action.takesPending, hb, hi]

theorem pendingRules_mapValues_takeLearned (groups : AList (fun _ : Int => GroupInfo)) :
  pendingRules (mapValues takeLearned groups) = []
  := by
  refine List.eq_nil_iff_forall_not_mem.2 fun ⟨r, k, q⟩ ht => ?_
  obtain ⟨grp, hg, hq⟩ := (mem_pendingRules _ _ _ _).1 ht
  rw [lookup_mapValues] at hg
  obtain ⟨old, -, rfl⟩ := Option.map_eq_some'.1 hg
  simp [takeLearned_learned] at hq

/-- `StartWatch` keeps the pending rules: a group it keeps has the learned rules it had, and a
group it makes has none. -/
theorem pendingRules_startWatch (P : Platform) (host : Host) (w : FileWatch) (id : String)
    (rootPid : Int) (conf : FsmonConfig) (capBlock bNeuvectorSvc : Bool) (now : Int)
    (t : Int × String × String) :
  t ∈ pendingRules (w.startWatch P host id rootPid conf capBlock bNeuvectorSvc now).1.groups ↔
    t ∈ pendingRules w.groups
  := by
  obtain ⟨r, k, q⟩ := t
  simp only [mem_pendingRules]
  rcases lookup_startWatch P host w id rootPid conf capBlock bNeuvectorSvc now r with
    hl | ⟨-, grp, hl, hlearn, -⟩
  · rw [hl]
  rw [hl]
  rcases hold : w.groups.lookup r with _ | g₀
  · simp only [hold, Option.map_none', Option.getD_none] at hlearn
    simp [GroupInfo.learned, hlearn]
  · simp only [hold, Option.map_some', Option.getD_some] at hlearn
    simp [GroupInfo.learned_congr hlearn]

/-- `UpdateAccessRules` keeps the pending rules. -/
theorem pendingRules_updateAccessRules (w : FileWatch) (rootPid : Int) (conf : CLUSFileAccessRule)
    (t : Int × String × String) :
  t ∈ pendingRules (w.updateAccessRules rootPid conf).1.groups ↔ t ∈ pendingRules w.groups
  := by
  obtain ⟨r, k, q⟩ := t
  simp only [mem_pendingRules, lookup_updateAccessRules]
  split_ifs
  · rcases w.groups.lookup r with _ | g <;> simp [GroupInfo.learned]
  · rfl

/-- A pending rule stays pending through a step, unless the step takes it. -/
theorem mem_pendingRules_step_of_mem (P : Platform) (w : FileWatch) (a : Action) {r : Int}
    {k q : String} (ht : (r, k, q) ∈ pendingRules w.groups) :
  (r, k, q) ∈ pendingRules (w.step P a).1.groups ↔ a.takesPending w (r, k, q) = false
  := by
  obtain ⟨grp, hg, hq⟩ := (mem_pendingRules _ _ _ _).1 ht
  cases a with
  | startWatch host id rootPid conf cb nv now =>
    simpa [Action.takesPending] using (pendingRules_startWatch P host w id rootPid conf cb nv now _).2 ht
  | updateAccessRules rootPid conf =>
    simpa [Action.takesPending] using (pendingRules_updateAccessRules w rootPid conf _).2 ht
  | containerCleanup rootPid bLeave =>
    rw [step_containerCleanup]
    unfold containerCleanup
    cases hb : w.bEnable
    · simp [Action.takesPending, hb, ht]
    · by_cases hr : r = rootPid
      · subst hr
        cases bLeave <;> simp [Action.takesPending, hb, mem_pendingRules, lookup_cleanupGroups, hg,
          GroupInfo.learned]
      · simp only [Action.takesPending, hb, Bool.true_and, beq_eq_false_iff_ne, ne_eq, hr,
          not_false_eq_true, iff_true, Bool.not_true, Bool.false_eq_true, ite_false]
        exact (mem_pendingRules _ _ _ _).2 ⟨grp, by rw [lookup_cleanupGroups, if_neg hr, hg], hq⟩
  | learn =>
    simp only [Action.takesPending, iff_true]
    cases hb : w.bEnable
    · rwa [step_of_fromLoop P w _ (by rfl) hb]
    rw [step_learn P w hb]
    rcases lookup_learnNext P w r with hl | ⟨_, fmod, path, _, grp', -, hg', hl⟩
    · exact (mem_pendingRules _ _ _ _).2 ⟨grp, hl.trans hg, hq⟩
    · rw [hg, Option.some.injEq] at hg'
      subst hg'
      exact (mem_pendingRules _ _ _ _).2
        ⟨_, hl, (mem_learned_learnGroup P grp fmod path k q).2 (Or.inl hq)⟩
  | report =>
    cases hb : w.bEnable
    · rw [step_of_fromLoop P w _ (by rfl) hb]
      simp [Action.takesPending, hb, ht]
    rw [step_report P w hb]
    unfold reportNext
    split
    · next hf =>
      simp [Action.takesPending, hb, hf, Flusher.idle, reportLearningRules,
        pendingRules_mapValues_takeLearned]
    · next hf => simp [Action.takesPending, hb, Flusher.idle_eq_false hf, ht]
  | notify | alert | swap | classify | send =>
    rw [step_groups_of_not_writesGroups]
    · simp [Action.takesPending, ht]
    · rfl

/-- A rule becomes pending only by an insertion of the learning section. -/
theorem inserts_of_mem_insertedBy (P : Platform) (w : FileWatch) (a : Action)
    {t : Int × String × String} (ht : t ∈ w.insertedBy P a) :
  Inserts P w a t
  := by
  obtain ⟨r, k, q⟩ := t
  simp only [insertedBy, List.mem_filter, decide_eq_true_eq] at ht
  obtain ⟨hnew, hold⟩ := ht
  obtain ⟨grp', hg', hq⟩ := (mem_pendingRules _ _ _ _).1 hnew
  have old : ∀ grp, w.groups.lookup r = some grp → q ∉ grp.learned k :=
    fun grp hg hq' => hold ((mem_pendingRules _ _ _ _).2 ⟨grp, hg, hq'⟩)
  rcases lookup_step P w a r with hl | ⟨host, id, conf, cb, nv, now, rfl⟩ | ⟨conf, rfl, -⟩ |
    ⟨bLeave, -, hl⟩ | ⟨rfl, b, fmod, path, event, grp, hf, hg, hl⟩ | ⟨-, hl⟩
  · exact absurd hq (old grp' (hl ▸ hg'))
  · exact absurd ((pendingRules_startWatch P host w id r conf cb nv now _).1 hnew) hold
  · exact absurd ((pendingRules_updateAccessRules w r conf _).1 hnew) hold
  · -- containerCleanup
    rw [hl] at hg'
    split_ifs at hg'
    obtain ⟨g₀, -, rfl⟩ := Option.map_eq_some'.1 hg'
    simp [GroupInfo.learned] at hq
  · -- learn
    rw [hl, Option.some.injEq] at hg'
    subst hg'
    rcases (mem_learned_learnGroup P grp fmod path k q).1 hq with hq' | ⟨hm, -, flt, hflt, hlt⟩
    · exact absurd hq' (old grp hg)
    · exact ⟨rfl, b, fmod, path, event, grp, hf, hg, hm, old grp hg, flt, hflt, hlt⟩
  · -- report
    rw [hl] at hg'
    obtain ⟨g₀, -, rfl⟩ := Option.map_eq_some'.1 hg'
    simp [takeLearned_learned] at hq

/-- Two duplicate-free lists `before` and `after` such that an element of `before` is in `after`
exactly when `R` does not hold of it: the new elements of `after` and `before` are, as a
multiset, the elements of `before` that `R` takes and `after`. -/
theorem perm_filter_new {α : Type} [DecidableEq α] {before after : List α} (new R : α → Bool)
    (hnew : ∀ t, new t = true ↔ t ∉ before) (hb : before.Nodup) (ha : after.Nodup)
    (hkeep : ∀ t ∈ before, t ∈ after ↔ R t = false) :
  (after.filter new ++ before).Perm (before.filter R ++ after)
  := by
  refine (List.perm_ext_iff_of_nodup ?_ ?_).2 fun t => ?_
  · refine (ha.filter _).append hb (List.disjoint_left.2 fun t ht => ?_)
    exact (hnew t).1 (List.mem_filter.1 ht).2
  · refine (hb.filter _).append ha (List.disjoint_left.2 fun t ht => ?_)
    obtain ⟨ht, hr⟩ := List.mem_filter.1 ht
    simp [hkeep t ht, hr]
  · by_cases ht : t ∈ before
    · have := hkeep t ht
      cases hr : R t <;> simp_all
    · simp [ht, hnew]

theorem ledger_step (P : Platform) (w : FileWatch) (a : Action) :
  (w.insertedBy P a ++ pendingRules w.groups).Perm
    (w.deliveredBy a ++ w.droppedBy a ++ pendingRules (w.step P a).1.groups)
  := by
  rw [deliveredBy_append_droppedBy]
  exact perm_filter_new _ _ (fun _ => decide_eq_true_iff) (nodup_pendingRules _)
    (nodup_pendingRules _) fun ⟨_, _, _⟩ ht => mem_pendingRules_step_of_mem P w a ht

theorem ledger_run (P : Platform) (w : FileWatch) (as : List Action) :
  (w.collect P (insertedBy P) as ++ pendingRules w.groups).Perm
    (w.collect P deliveredBy as ++ w.collect P droppedBy as ++ pendingRules (w.run P as).1.groups)
  := by
  induction as generalizing w with
  | nil => simp [collect]
  | cons a as ih =>
    have h₁ := List.perm_iff_count.1 (ledger_step P w a)
    have h₂ := List.perm_iff_count.1 (ih (w.step P a).1)
    refine List.perm_iff_count.2 fun t => ?_
    have e₁ := h₁ t
    have e₂ := h₂ t
    simp only [collect, run_cons, List.count_append] at e₁ e₂ ⊢
    omega

theorem mem_collect {α : Type} (P : Platform) (f : FileWatch → Action → List α) (w : FileWatch)
    (as : List Action) (x : α) :
  x ∈ w.collect P f as ↔ ∃ pre a post, as = pre ++ a :: post ∧ x ∈ f (w.run P pre).1 a
  := by
  induction as generalizing w with
  | nil => simp [collect]
  | cons b as ih =>
    simp only [collect, List.mem_append, ih]
    constructor
    · rintro (h | ⟨pre, a, post, rfl, h⟩)
      · exact ⟨[], b, as, rfl, h⟩
      · exact ⟨b :: pre, a, post, rfl, h⟩
    · rintro ⟨_ | ⟨c, pre⟩, a, post, he, h⟩
      · simp only [List.nil_append, List.cons.injEq] at he
        obtain ⟨rfl, rfl⟩ := he
        exact Or.inl h
      · simp only [List.cons_append, List.cons.injEq] at he
        obtain ⟨rfl, rfl⟩ := he
        exact Or.inr ⟨pre, a, post, rfl, h⟩

theorem sentRules_append (l₁ l₂ : List Call) :
  sentRules (l₁ ++ l₂) = sentRules l₁ ++ sentRules l₂
  := List.flatMap_append _ _ _

theorem sentRules_run (P : Platform) (w : FileWatch) (as : List Action) :
  sentRules (w.run P as).2 = w.collect P (fun w a => (w.deliveredBy a).map (ruleReq w.groups)) as
  := by
  induction as generalizing w with
  | nil => rfl
  | cons a as ih =>
    rw [run_cons, sentRules_append, ih, sentRules_step, collect, deliveredBy]
    split_ifs <;> rfl

/-- Over every run from a new monitor, the rules the learning section inserts into the groups
are, each once, those handed to `sendRule`, those a cleanup dropped and those still pending.
What `sendRule` receives is the rules delivered, each with the name of its group; a report
delivers every rule pending, so each inserted rule goes at the first report after it unless a
cleanup dropped it first; and a rule is inserted only on the conditions of `addLearnedRules`. -/
theorem learned_rules_delivered_once (P : Platform) (bEnable aufs : Bool)
    (estRuleSrc : String → String → Bool → String) (as : List Action) :
  let w₀ := FileWatch.init bEnable aufs estRuleSrc
  (w₀.collect P (insertedBy P) as).Perm
      (w₀.collect P deliveredBy as ++ w₀.collect P droppedBy as ++
        pendingRules (w₀.run P as).1.groups) ∧
    sentRules (w₀.run P as).2 =
      w₀.collect P (fun w a => (w.deliveredBy a).map (ruleReq w.groups)) as ∧
    ∀ t ∈ w₀.collect P (insertedBy P) as,
      ∃ pre a post, as = pre ++ a :: post ∧ Inserts P (w₀.run P pre).1 a t
  := by
  intro w₀
  refine ⟨?_, sentRules_run P w₀ as, fun t ht => ?_⟩
  · have h₀ : pendingRules w₀.groups = [] := rfl
    simpa [h₀] using ledger_run P w₀ as
  · obtain ⟨pre, a, post, he, hm⟩ := (mem_collect P _ w₀ as t).1 ht
    exact ⟨pre, a, post, he, inserts_of_mem_insertedBy P _ a hm⟩

end FileWatch

end Fsmon
