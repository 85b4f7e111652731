import NodeFlags.Proofs.Pass

/-!
# What an operator wrote, after any number of passes

A cluster lives through many passes: it is created, upgraded, sometimes taken back
to an earlier version, and each pass reads the role's map that the one before it
left. Between two passes everything else may have changed, the context, the catalog
and with the version the static flags and the defaults.

Three things about a role's map are kept by every single pass, and so by any chain
of them (`runPasses_invariant`):

* a value that is not empty, where neither the platform nor a treatment of its own
  speaks of the flag (`Pass.get?_run_of_own`);
* the gates, which only grow at the end (`Pass.prefix_entries_run`);
* a disabled limit on process identifiers, as long as the version knows the flag
  (`Pass.get?_run_pidLimitDisabled`).
-/

namespace NodeFlags

open FlagMap GateSet

/-- What a pass over a role reads besides the role. -/
structure Pass where
  context : Context
  catalog : Catalog
  /-- As which kind of node group the role is resolved. -/
  kind : RoleKind

namespace Pass

/-- The role after the pass. -/
def run (pass : Pass) (role : Role) : Role :=
  (Plan.ofContext pass.context pass.catalog).resolveRole role pass.kind

end Pass

/-- The role after one pass after another. -/
def runPasses (passes : List Pass) (role : Role) : Role :=
  passes.foldl (fun current pass => pass.run current) role

theorem runPasses_append (before after : List Pass) (role : Role) :
    runPasses (before ++ after) role = runPasses after (runPasses before role) :=
  List.foldl_append

/-- What each pass of a chain preserves, the chain preserves. -/
theorem runPasses_invariant (Inv : Role → Prop) {passes : List Pass} {role : Role}
    (hstep : ∀ pass ∈ passes, ∀ current, Inv current → Inv (pass.run current)) (h : Inv role) :
    Inv (runPasses passes role) := by
  induction passes generalizing role with
  | nil => exact h
  | cons pass rest ih =>
    refine ih ?_ (hstep pass List.mem_cons_self role h)
    intro later hlater
    exact hstep later (List.mem_cons_of_mem _ hlater)

/-! ### One pass -/

namespace Pass

variable (pass : Pass) {role : Role}

/-- A flag of the role's own keeps its value if the platform does not dictate the flag. That it does
not also says that the flag is not `--allow-privileged`, which the platform always dictates. -/
theorem get?_run_of_own {name value : String} (hgates : name ≠ Flag.featureGates)
    (hpids : name ≠ Flag.podMaxPids) (hport : name ≠ Flag.cadvisorPort)
    (hstatic : (StaticFlags.ofContext pass.context role.osFamily).get? name = none)
    (hvalue : value ≠ "") (hown : role.flags.get? name = some value) :
    (pass.run role).flags.get? name = some value := by
  have hprivileged : name ≠ Flag.allowPrivileged := by
    rintro rfl
    rw [StaticFlags.get?_allowPrivileged] at hstatic
    exact Option.some_ne_none _ hstatic
  have haccepts : accepts pass.context.orchestratorVersion name = true :=
    accepts_iff.2 ⟨fun h => absurd h hpids, fun h => absurd h hport, fun h => absurd h hprivileged⟩
  have hrun := Plan.get?_resolveFlags pass.context pass.catalog role pass.kind hgates hpids
  rw [if_pos haccepts, Role.layeredValue_eq_own hstatic hown, swept_some hvalue] at hrun
  exact hrun

/-- The gates of a role stay, in their order and before all others. -/
theorem prefix_entries_run :
    (ofFlags role.flags).entries <+: (ofFlags (pass.run role).flags).entries := by
  have hrun := Plan.ofFlags_resolveFlags_eq_insertAll pass.context pass.catalog role pass.kind
  change _ <+: (ofFlags ((Plan.ofContext pass.context pass.catalog).resolveFlags role
    pass.kind)).entries
  rw [hrun, ofFlags_eq_ofValue]
  cases hown : role.flags.get? Flag.featureGates with
  | none => exact List.nil_prefix
  | some value =>
    rw [Role.layeredValue_eq_own (StaticFlags.get?_featureGates _ _) hown]
    exact prefix_insertAll _ _

/-- A limit that is disabled is not looked at again. -/
theorem get?_run_pidLimitDisabled
    (hversion : atLeast pass.context.orchestratorVersion "1.10.0" = true)
    (hown : role.flags.get? Flag.podMaxPids = some pidLimitDisabled) :
    (pass.run role).flags.get? Flag.podMaxPids = some pidLimitDisabled := by
  have hrun := Plan.get?_resolveFlags_podMaxPids pass.context pass.catalog role pass.kind
  rw [if_pos hversion, Role.layeredValue_eq_own (StaticFlags.get?_podMaxPids _ _) hown,
    Option.map_some, clampValue_pidLimitDisabled, swept_some (by decide)] at hrun
  exact hrun

end Pass

/-! ### A chain of passes -/

theorem get?_runPasses_of_own {passes : List Pass} {role : Role} {name value : String}
    (hgates : name ≠ Flag.featureGates) (hpids : name ≠ Flag.podMaxPids)
    (hport : name ≠ Flag.cadvisorPort)
    (hstatic : ∀ pass ∈ passes,
      (StaticFlags.ofContext pass.context role.osFamily).get? name = none)
    (hvalue : value ≠ "") (hown : role.flags.get? name = some value) :
    (runPasses passes role).flags.get? name = some value := by
  -- the operating system decides which static set a later pass reads
  have hkept : (runPasses passes role).osFamily = role.osFamily ∧
      (runPasses passes role).flags.get? name = some value := by
    refine runPasses_invariant (fun current => current.osFamily = role.osFamily ∧
      current.flags.get? name = some value) ?_ ⟨rfl, hown⟩
    rintro pass hpass current ⟨hos, hcurrent⟩
    refine ⟨hos, pass.get?_run_of_own hgates hpids hport ?_ hvalue hcurrent⟩
    rw [hos]
    exact hstatic pass hpass
  exact hkept.2

theorem prefix_entries_runPasses (passes : List Pass) (role : Role) :
    (ofFlags role.flags).entries <+: (ofFlags (runPasses passes role).flags).entries := by
  refine runPasses_invariant
    (fun current => (ofFlags role.flags).entries <+: (ofFlags current.flags).entries) ?_
    (List.prefix_refl _)
  intro pass _ current hcurrent
  exact hcurrent.trans pass.prefix_entries_run

theorem get?_runPasses_pidLimitDisabled {passes : List Pass} {role : Role}
    (hversion : ∀ pass ∈ passes, atLeast pass.context.orchestratorVersion "1.10.0" = true)
    (hown : role.flags.get? Flag.podMaxPids = some pidLimitDisabled) :
    (runPasses passes role).flags.get? Flag.podMaxPids = some pidLimitDisabled := by
  refine runPasses_invariant
    (fun current => current.flags.get? Flag.podMaxPids = some pidLimitDisabled) ?_ hown
  intro pass hpass current hcurrent
  exact pass.get?_run_pidLimitDisabled (hversion pass hpass) hcurrent

/-- **What any chain of passes keeps**: values of the operator's own, the gates in their order, and
from any point on a limit that is disabled there. -/
theorem runPasses_keeps (passes : List Pass) (role : Role) :
    (∀ name value, role.flags.get? name = some value → value ≠ "" →
      name ≠ Flag.featureGates → name ≠ Flag.podMaxPids → name ≠ Flag.cadvisorPort →
      (∀ pass ∈ passes, (StaticFlags.ofContext pass.context role.osFamily).get? name = none) →
      (runPasses passes role).flags.get? name = some value) ∧
    (ofFlags role.flags).entries <+: (ofFlags (runPasses passes role).flags).entries ∧
    (∀ before after, passes = before ++ after →
      (runPasses before role).flags.get? Flag.podMaxPids = some "-1" →
      (∀ pass ∈ after, atLeast pass.context.orchestratorVersion "1.10.0" = true) →
      (runPasses passes role).flags.get? Flag.podMaxPids = some "-1") := by
  refine ⟨?_, prefix_entries_runPasses passes role, ?_⟩
  · intro name value hown hvalue hgates hpids hport hstatic
    exact get?_runPasses_of_own hgates hpids hport hstatic hvalue hown
  · rintro before after rfl hdisabled hversion
    rw [runPasses_append]
    exact get?_runPasses_pidLimitDisabled hversion hdisabled

/-- A pool that is created at one version and upgraded to another. -/
theorem runPasses_keeps_creation_and_upgrade :
    let passes : List Pass :=
      [{ context := { orchestratorVersion := "1.12.8" }, catalog := {}, kind := .workerPool },
       { context := { orchestratorVersion := "1.15.0", isUpgrade := true }, catalog := {},
         kind := .workerPool }]
    let role : Role :=
      { name := "pool"
        kubeletConfig := some (.ofList
          [(Flag.maxPods, "50"), (Flag.featureGates, " Sysctls=true ,"),
           (Flag.podMaxPids, "-1")]) }
    (runPasses passes role).flags.get? Flag.maxPods = some "50" ∧
      ["Sysctls=true"] <+: (ofFlags (runPasses passes role).flags).entries ∧
      (runPasses passes role).flags.get? Flag.podMaxPids = some "-1" := by
  intro passes role
  obtain ⟨hown, hgates, hpids⟩ := runPasses_keeps passes role
  refine ⟨?_, ?_, ?_⟩
  · exact hown Flag.maxPods "50" (by decide) (by decide) (by decide) (by decide) (by decide)
      fun _ _ => StaticFlags.get?_eq_none (by decide) _ _
  · exact hgates
  · refine hpids [] passes rfl (by decide) ?_
    decide +kernel

end NodeFlags
