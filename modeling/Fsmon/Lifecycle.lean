import Fsmon.Machine

/-!
# The life of a container's group

The monitor knows a container through its group.  Its rules aside, the group follows a small
abstract machine (`Action.groupOf`): a `StartWatch` of the container on a live root process
makes the group, with the call's profile, mode, start time and service flag, or, when there is
one, gives it the new profile and mode and keeps the rest; a `ContainerCleanup` that leaves
deletes it; no other step touches it.  Every run of the monitor refines this machine
(`groups_refine_groupOf`): so a container has a group exactly when its last successful
`StartWatch` comes after its last leaving cleanup, its profile and mode are those of that
`StartWatch`, and its start time, from which the first minute of runtime-written files is
counted, is that of the first `StartWatch` after the cleanup; in particular it is the time of a
`StartWatch` of the container in the run, and so is the start time the flush carries to the
reports of an entry (`startedAt_of_sending_run`).

The access rules of the group follow a second machine (`Action.applyRulesFor`): a `StartWatch`
installs those of its configuration, unless the container is the host or the agent's own, an
`UpdateAccessRules` replaces those of an existing group, and a cleanup drops or empties them
(`applyRules_refine_applyRulesFor`).  Learning, reporting, the flush and the drivers' callbacks
never change the access rules a container is enforced with.
-/

namespace Fsmon

/-- A group with its learned and applied rules left out. -/
def GroupInfo.withoutRules (grp : GroupInfo) : GroupInfo :=
  { grp with learnRules := ∅, applyRules := ∅ }

/-- What a step does to the group of the container `r`, rules aside. -/
def Action.groupOf (r : Int) (g : Option GroupInfo) : Action → Option GroupInfo
  | .startWatch host _ rootPid conf _ bNeuvectorSvc now =>
    if r = rootPid ∧ host.isPidValid rootPid = true then
      some (FileWatch.startedGroup g (FileWatch.startProfile conf.profile) bNeuvectorSvc now)
    else g
  | .containerCleanup rootPid bLeave => if r = rootPid ∧ bLeave = true then none else g
  | _ => g

/-- What a step does to the access rules of the container `r`: a `StartWatch` on a live root
process keeps those of the group it finds, or starts a new group with none, and installs those of
its configuration unless the container is the host or the agent's own; an `UpdateAccessRules`
replaces those of an existing group; a `ContainerCleanup` drops them with the group, or empties
them; no other step touches them. -/
def Action.applyRulesFor (r : Int) (g : Option (AList (fun _ : String => StrSet))) :
    Action → Option (AList (fun _ : String => StrSet))
  | .startWatch host _ rootPid conf _ bNeuvectorSvc _ =>
    if r = rootPid ∧ host.isPidValid rootPid = true then
      match conf.rule with
      | some rule =>
        if bNeuvectorSvc || rootPid == 1 then some (g.getD ∅) else some (applyRulesOf rule)
      | none => some (g.getD ∅)
    else g
  | .updateAccessRules rootPid conf => if r = rootPid then g.map fun _ => applyRulesOf conf else g
  | .containerCleanup rootPid bLeave =>
    if r = rootPid then (if bLeave then none else g.map fun _ => ∅) else g
  | _ => g

@[simp]
theorem GroupInfo.withoutRules_applyRules (grp : GroupInfo) (s : AList (fun _ : String => StrSet)) :
  { grp with applyRules := s }.withoutRules = grp.withoutRules
  := rfl

@[simp]
theorem GroupInfo.withoutRules_learnRules (grp : GroupInfo) (s : AList (fun _ : String => StrSet)) :
  { grp with learnRules := s }.withoutRules = grp.withoutRules
  := rfl

@[simp]
theorem GroupInfo.withoutRules_cleared (grp : GroupInfo) :
  { grp with learnRules := ∅, applyRules := ∅ }.withoutRules = grp.withoutRules
  := rfl

theorem takeLearned_withoutRules (grp : GroupInfo) :
  (takeLearned grp).withoutRules = grp.withoutRules
  := by
  unfold takeLearned
  split_ifs <;> rfl

theorem learnGroup_withoutRules (P : Platform) (grp : GroupInfo) (fmod : FileMod) (path : String) :
  (learnGroup P grp fmod path).withoutRules = grp.withoutRules
  := by
  obtain ⟨lr, h⟩ := learnGroup_eq P grp fmod path
  rw [h]
  rfl

namespace FileWatch

/-! ### Each step -/

theorem startedGroup_withoutRules (entry : Option GroupInfo) (profile : CLUSFileMonitorProfile)
    (bNeuvectorSvc : Bool) (now : Int) :
  (startedGroup entry profile bNeuvectorSvc now).withoutRules =
    startedGroup (entry.map GroupInfo.withoutRules) profile bNeuvectorSvc now
  := by
  cases entry <;> rfl

theorem lookup_updateAccessRules_withoutRules (w : FileWatch) (rootPid : Int)
    (conf : CLUSFileAccessRule) (r : Int) :
  ((w.updateAccessRules rootPid conf).1.groups.lookup r).map GroupInfo.withoutRules =
    (w.groups.lookup r).map GroupInfo.withoutRules
  := by
  rw [lookup_updateAccessRules]
  split_ifs <;> simp [Option.map_map, Function.comp_def]

/-- `StartWatch`, rules aside: on an enabled monitor and a live root process, the container's
group is the started one; nothing else changes. -/
theorem lookup_startWatch_withoutRules (P : Platform) (host : Host) (w : FileWatch) (id : String)
    (rootPid : Int) (conf : FsmonConfig) (capBlock bNeuvectorSvc : Bool) (now r : Int)
    (hb : w.bEnable = true) :
  ((w.startWatch P host id rootPid conf capBlock bNeuvectorSvc now).1.groups.lookup r).map
      GroupInfo.withoutRules =
    (Action.startWatch host id rootPid conf capBlock bNeuvectorSvc now).groupOf r
      ((w.groups.lookup r).map GroupInfo.withoutRules)
  := by
  by_cases hv : host.isPidValid rootPid = true
  · have ha := addCoreFile_armsFrom P w (!bNeuvectorSvc) id
      (getCoreFile P host rootPid (startProfile conf.profile)).1
      (getCoreFile P host rootPid (startProfile conf.profile)).2
    have hins : ∀ v : FileWatch, v.groups = w.groups.insert rootPid
        (startedGroup (w.groups.lookup rootPid) (startProfile conf.profile) bNeuvectorSvc now) →
        (v.groups.lookup r).map GroupInfo.withoutRules =
          (Action.startWatch host id rootPid conf capBlock bNeuvectorSvc now).groupOf r
            ((w.groups.lookup r).map GroupInfo.withoutRules) := by
      intro v hv'
      rw [hv']
      by_cases hr : r = rootPid
      · subst hr
        simp [Action.groupOf, hv, startedGroup_withoutRules]
      · simp [Action.groupOf, hr, AList.lookup_insert_ne hr]
    simp only [startWatch, hb, hv, Bool.not_true, Bool.false_eq_true, ite_false, ha.1.groups]
    split
    · exact hins _ rfl
    · split
      · rw [lookup_updateAccessRules_withoutRules]
        exact hins _ rfl
      · exact hins _ rfl
  · simp [startWatch, hv, Action.groupOf]

/-- Every step of an enabled monitor acts on a group, rules aside, as `Action.groupOf`. -/
theorem lookup_step_withoutRules (P : Platform) (w : FileWatch) (a : Action) (r : Int)
    (hb : w.bEnable = true) :
  ((w.step P a).1.groups.lookup r).map GroupInfo.withoutRules =
    a.groupOf r ((w.groups.lookup r).map GroupInfo.withoutRules)
  := by
  cases a with
  | startWatch host id rootPid conf capBlock bNeuvectorSvc now =>
    exact lookup_startWatch_withoutRules P host w id rootPid conf capBlock bNeuvectorSvc now r hb
  | updateAccessRules rootPid conf => exact lookup_updateAccessRules_withoutRules w rootPid conf r
  | containerCleanup rootPid bLeave =>
    simp only [step_containerCleanup, containerCleanup, hb, Bool.not_true, Bool.false_eq_true,
      ite_false, lookup_cleanupGroups, Action.groupOf]
    by_cases hr : r = rootPid
    · cases bLeave <;> simp [hr, Option.map_map, Function.comp_def]
    · simp [hr]
  | learn =>
    rw [step_learn P w hb]
    rcases lookup_learnNext P w r with h | ⟨b, fmod, path, event, grp, -, hg, h⟩
    · rw [h]
      rfl
    · rw [h, hg]
      simp [Action.groupOf, learnGroup_withoutRules]
  | report =>
    rw [step_report P w hb]
    unfold reportNext
    split
    · simp [lookup_reportLearningRules, Action.groupOf, Option.map_map, Function.comp_def,
        takeLearned_withoutRules]
    · rfl
  | _ =>
    rw [step_groups_of_not_writesGroups]
    · rfl
    · rfl

/-! ### Every run -/

/-- A view of a container's group that every step of an enabled monitor moves by `F` follows `F`
along every run. -/
theorem lookup_run_of_step {β : Type} (P : Platform) (r : Int) (f : Option GroupInfo → β)
    (F : Action → β → β)
    (hstep : ∀ (w : FileWatch) (a : Action), w.bEnable = true →
      f ((w.step P a).1.groups.lookup r) = F a (f (w.groups.lookup r)))
    (w : FileWatch) (as : List Action) (hb : w.bEnable = true) :
  f ((w.run P as).1.groups.lookup r) = as.foldl (fun g a => F a g) (f (w.groups.lookup r))
  := by
  induction as generalizing w with
  | nil => rfl
  | cons a as ih =>
    rw [run_cons, ih _ ((step_bEnable P w a).trans hb), hstep w a hb]
    rfl

/-- The groups of every run refine the abstract life of a group: after any run of an enabled
monitor, the group of each container, rules aside, is what `Action.groupOf` makes of the run's
steps; a disabled monitor has none. -/
theorem groups_refine_groupOf (P : Platform) (bEnable aufs : Bool)
    (estRuleSrc : String → String → Bool → String) (as : List Action) (r : Int) :
  (((FileWatch.init bEnable aufs estRuleSrc).run P as).1.groups.lookup r).map
      GroupInfo.withoutRules =
    if bEnable then as.foldl (fun g a => a.groupOf r g) none else none
  := by
  cases bEnable
  · rw [run_of_disabled P _ as rfl]
    rfl
  · exact lookup_run_of_step P r _ _ (fun w a hb => lookup_step_withoutRules P w a r hb) _ as rfl

/-! ### The start of a container -/

/-- `t` is the time of a `StartWatch` of the container `r` among the steps `as`. -/
def StartedAt (as : List Action) (r t : Int) : Prop :=
  ∃ host id conf capBlock bNeuvectorSvc,
    Action.startWatch host id r conf capBlock bNeuvectorSvc t ∈ as

theorem StartedAt.mono {as bs : List Action} {r t : Int} (h : StartedAt as r t) (hs : as ⊆ bs) :
  StartedAt bs r t
  := let ⟨host, id, conf, capBlock, bNeuvectorSvc, hm⟩ := h
    ⟨host, id, conf, capBlock, bNeuvectorSvc, hs hm⟩

/-- In the abstract life of a group, the group keeps the time of the `StartWatch` that made it. -/
theorem startedAt_of_groupOf (r : Int) (as : List Action) {grp : GroupInfo}
    (h : as.foldl (fun g a => a.groupOf r g) none = some grp) :
  StartedAt as r grp.startAt
  := by
  induction as using List.reverseRecOn generalizing grp with
  | nil => cases h
  | append_singleton as a ih =>
    have hs : as ⊆ as ++ [a] := List.subset_append_left _ _
    rw [List.foldl_append, List.foldl_cons, List.foldl_nil] at h
    generalize as.foldl (fun g a => a.groupOf r g) none = g at h ih
    cases a with
    | startWatch host id rootPid conf capBlock bNeuvectorSvc now =>
      simp only [Action.groupOf] at h
      split_ifs at h with hr
      · obtain ⟨rfl, -⟩ := hr
        cases h
        cases g with
        | none => exact ⟨host, id, conf, capBlock, bNeuvectorSvc, List.mem_append_right _ (.head _)⟩
        | some grp₀ => exact (ih rfl).mono hs
      · exact (ih h).mono hs
    | containerCleanup rootPid bLeave =>
      simp only [Action.groupOf] at h
      split_ifs at h
      exact (ih h).mono hs
    | _ => exact (ih h).mono hs

/-- Every group a run reaches has the time of a `StartWatch` of its container in the run. -/
theorem startedAt_of_lookup_run (P : Platform) (bEnable aufs : Bool)
    (estRuleSrc : String → String → Bool → String) (as : List Action) {r : Int} {grp : GroupInfo}
    (h : ((FileWatch.init bEnable aufs estRuleSrc).run P as).1.groups.lookup r = some grp) :
  StartedAt as r grp.startAt
  := by
  cases bEnable
  · rw [run_of_disabled P _ as rfl] at h
    cases h
  · have hf := lookup_run_of_step P r (Option.map GroupInfo.withoutRules)
      (fun a g => a.groupOf r g) (fun w a hb => lookup_step_withoutRules P w a r hb)
      (FileWatch.init true aufs estRuleSrc) as rfl
    rw [h] at hf
    have hw : as.foldl (fun g a => a.groupOf r g) none = some grp.withoutRules := hf.symm
    exact (startedAt_of_groupOf r as hw :)

/-- The start time the flush carries to the reports of an entry is the time of a `StartWatch` of
the entry's container. -/
theorem startedAt_of_sending_run (P : Platform) (bEnable aufs : Bool)
    (estRuleSrc : String → String → Bool → String) (as : List Action)
    {b : List (String × FileMod)} {fmod : FileMod} {pid : Int} {path : String} {event : Nat}
    {mode : String} {startAt : Int}
    (h : ((FileWatch.init bEnable aufs estRuleSrc).run P as).1.flusher =
      .sending b fmod pid path event mode startAt) :
  StartedAt as pid startAt
  := by
  induction as using List.reverseRecOn generalizing b fmod pid path event mode startAt with
  | nil => cases h
  | append_singleton as a ih =>
    have hs : as ⊆ as ++ [a] := List.subset_append_left _ _
    rw [run_append] at h
    change (((FileWatch.init bEnable aufs estRuleSrc).run P as).1.step P a).1.flusher = _ at h
    rcases step_flusher_cases P ((FileWatch.init bEnable aufs estRuleSrc).run P as).1 a with
      hf | hf | ⟨-, b', fmod', pid', path', event', grp, -, hg, hf⟩
    · exact (ih (hf ▸ h)).mono hs
    · rw [h] at hf
      cases hf
    · rw [h] at hf
      cases hf
      exact (startedAt_of_lookup_run P bEnable aufs estRuleSrc as hg).mono hs

/-! ### Access rules -/

theorem takeLearned_applyRules (grp : GroupInfo) :
  (takeLearned grp).applyRules = grp.applyRules
  := by
  unfold takeLearned
  split_ifs <;> rfl

/-- `StartWatch`, on an enabled monitor, acts on the access rules of a container as
`Action.applyRulesFor`. -/
theorem lookup_startWatch_applyRules (P : Platform) (host : Host) (w : FileWatch) (id : String)
    (rootPid : Int) (conf : FsmonConfig) (capBlock bNeuvectorSvc : Bool) (now r : Int)
    (hb : w.bEnable = true) :
  ((w.startWatch P host id rootPid conf capBlock bNeuvectorSvc now).1.groups.lookup r).map
      (·.applyRules) =
    (Action.startWatch host id rootPid conf capBlock bNeuvectorSvc now).applyRulesFor r
      ((w.groups.lookup r).map (·.applyRules))
  := by
  by_cases hv : host.isPidValid rootPid = true
  · have ha := addCoreFile_armsFrom P w (!bNeuvectorSvc) id
      (getCoreFile P host rootPid (startProfile conf.profile)).1
      (getCoreFile P host rootPid (startProfile conf.profile)).2
    have hb₁ := ha.1.bEnable.trans hb
    have hstarted : ∀ g : Option GroupInfo,
        (startedGroup g (startProfile conf.profile) bNeuvectorSvc now).applyRules =
          (g.map (·.applyRules)).getD ∅ := fun g => by cases g <;> rfl
    simp only [startWatch, hb, hv, Bool.not_true, Bool.false_eq_true, ite_false, ha.1.groups]
    by_cases hr : r = rootPid
    · subst hr
      rcases hrule : conf.rule with _ | rule
      · simp [Action.applyRulesFor, hv, hrule, hstarted]
      · dsimp only
        split_ifs with hn
        · simp [Action.applyRulesFor, hv, hrule, hn, hstarted]
        · rw [lookup_updateAccessRules]
          simp [Action.applyRulesFor, hv, hrule, hn, hb₁]
    · have hne : (w.groups.insert rootPid (startedGroup (w.groups.lookup rootPid)
          (startProfile conf.profile) bNeuvectorSvc now)).lookup r = w.groups.lookup r :=
        AList.lookup_insert_ne hr
      rcases conf.rule with _ | rule
      · simp [Action.applyRulesFor, hr, hne]
      · split_ifs
        · simp [Action.applyRulesFor, hr, hne]
        · rw [lookup_updateAccessRules]
          simp [Action.applyRulesFor, hr, hne]
  · simp [startWatch, hv, Action.applyRulesFor]

/-- Every step of an enabled monitor acts on the access rules of a container as
`Action.applyRulesFor`. -/
theorem lookup_step_applyRules (P : Platform) (w : FileWatch) (a : Action) (r : Int)
    (hb : w.bEnable = true) :
  ((w.step P a).1.groups.lookup r).map (·.applyRules) =
    a.applyRulesFor r ((w.groups.lookup r).map (·.applyRules))
  := by
  cases a with
  | startWatch host id rootPid conf capBlock bNeuvectorSvc now =>
    exact lookup_startWatch_applyRules P host w id rootPid conf capBlock bNeuvectorSvc now r hb
  | updateAccessRules rootPid conf =>
    rw [step_updateAccessRules, lookup_updateAccessRules]
    by_cases hr : r = rootPid <;> simp [Action.applyRulesFor, hb, hr, Option.map_map,
      Function.comp_def]
  | containerCleanup rootPid bLeave =>
    simp only [step_containerCleanup, containerCleanup, hb, Bool.not_true, Bool.false_eq_true,
      ite_false, lookup_cleanupGroups, Action.applyRulesFor]
    by_cases hr : r = rootPid
    · cases bLeave <;> simp [hr, Option.map_map, Function.comp_def]
    · simp [hr]
  | learn =>
    rw [step_learn P w hb]
    rcases lookup_learnNext P w r with h | ⟨b, fmod, path, event, grp, -, hg, h⟩
    · rw [h]
      rfl
    · rw [h, hg]
      simp [Action.applyRulesFor, learnGroup_applyRules]
  | report =>
    rw [step_report P w hb]
    unfold reportNext
    split
    · simp [lookup_reportLearningRules, Action.applyRulesFor, Option.map_map, Function.comp_def,
        takeLearned_applyRules]
    · rfl
  | _ =>
    rw [step_groups_of_not_writesGroups]
    · rfl
    · rfl

/-- The access rules of every run refine their abstract life: after any run of an enabled
monitor, the access rules of each container are what `Action.applyRulesFor` makes of the run's
steps, so learning, reporting, the flush and the drivers' callbacks never change them; a disabled
monitor has none. -/
theorem applyRules_refine_applyRulesFor (P : Platform) (bEnable aufs : Bool)
    (estRuleSrc : String → String → Bool → String) (as : List Action) (r : Int) :
  (((FileWatch.init bEnable aufs estRuleSrc).run P as).1.groups.lookup r).map (·.applyRules) =
    if bEnable then as.foldl (fun g a => a.applyRulesFor r g) none else none
  := by
  cases bEnable
  · rw [run_of_disabled P _ as rfl]
    rfl
  · exact lookup_run_of_step P r _ _ (fun w a hb => lookup_step_applyRules P w a r hb) _ as rfl

end FileWatch

end Fsmon
