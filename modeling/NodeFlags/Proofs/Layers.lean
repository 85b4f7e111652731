import NodeFlags.Proofs.Gates
import NodeFlags.Resolution

/-!
# The layers of a flag

A flag of a role can stand in four layers, the upper ones first: the static flags of
the role's operating system, the role's own map, the operator's map for the whole
cluster, and the computed defaults. `Role.layeredValue` is the value in the first
layer that holds the flag. The empty value is a value: it hides what is below.

A pass does not look at the layers in this order. It overwrites the role's map with
the static flags and fills the gaps from a snapshot made beforehand. But for the
gates, some of which the snapshot already holds, this comes to the same
(`Plan.get?_filled`).
-/

namespace NodeFlags

/-! ### Static flags -/

namespace StaticFlags

theorem get?_mark (flags : FlagMap) (marked : List String) (name : String) :
    (mark flags marked).get? name =
      if name ∈ marked then some FlagMap.removalMark else flags.get? name := by
  unfold mark
  induction marked generalizing flags with
  | nil => rfl
  | cons first rest ih =>
    rw [List.foldl_cons, ih, Dict.get?_insert]
    by_cases hfirst : name = first
    · simp [hfirst]
    · simp [hfirst]

/-- The flags that a static set can define. -/
def names : List String :=
  [Flag.address, Flag.allowPrivileged, Flag.anonymousAuth, Flag.authorizationMode,
   Flag.clientCaFile, Flag.podManifestPath, Flag.clusterDns, Flag.cgroupsPerQos, Flag.kubeconfig,
   Flag.keepTerminatedPodVolumes, Flag.tlsCertFile, Flag.tlsPrivateKeyFile, Flag.cloudProvider,
   Flag.azureContainerRegistryConfig, Flag.podInfraContainerImage, Flag.cloudConfig,
   Flag.enforceNodeAllocatable, Flag.systemReserved, Flag.hairpinMode,
   Flag.imagePullProgressDeadline, Flag.resolvConf, Flag.evictionHard]

theorem get?_linux_eq_none {name : String} (h : name ∉ names) (ctx : Context) :
    (linux ctx).get? name = none := by
  simp only [names, List.mem_cons, List.not_mem_nil, or_false, not_or] at h
  unfold linux
  cases ctx.cloudProvider <;> cases ctx.secureKubelet <;>
    simp [get?_mark, secureOnly, Dict.get?_ofList, Dict.lookup_cons_eq_ite, h]

theorem get?_windows_eq_none {name : String} (h : name ∉ names) (ctx : Context) :
    (windows ctx).get? name = none := by
  have hlinux := get?_linux_eq_none h ctx
  simp only [names, List.mem_cons, List.not_mem_nil, or_false, not_or] at h
  unfold windows
  cases ctx.secureKubelet <;>
    simp [get?_mark, linuxOnly, windowsAdditions, Dict.get?_ofList, Dict.lookup_cons_eq_ite, h,
      hlinux]

theorem get?_eq_none {name : String} (h : name ∉ names) (ctx : Context) (os : OsFamily) :
    (ofContext ctx os).get? name = none := by
  cases os with
  | linux => exact get?_linux_eq_none h ctx
  | windows => exact get?_windows_eq_none h ctx

/-- The platform says nothing of the gates. -/
@[simp] theorem get?_featureGates (ctx : Context) (os : OsFamily) :
    (ofContext ctx os).get? Flag.featureGates = none :=
  get?_eq_none (by decide) ctx os

/-- The platform says nothing of the limit on process identifiers. -/
@[simp] theorem get?_podMaxPids (ctx : Context) (os : OsFamily) :
    (ofContext ctx os).get? Flag.podMaxPids = none :=
  get?_eq_none (by decide) ctx os

/-- The platform dictates this flag everywhere. -/
theorem get?_allowPrivileged (ctx : Context) (os : OsFamily) :
    (ofContext ctx os).get? Flag.allowPrivileged = some "true" := by
  have hlinux : (linux ctx).get? Flag.allowPrivileged = some "true" := by
    unfold linux
    cases ctx.cloudProvider <;> cases ctx.secureKubelet <;>
      simp [get?_mark, secureOnly, Dict.get?_ofList, Dict.lookup_cons_eq_ite, Flag.allowPrivileged,
        Flag.anonymousAuth, Flag.clientCaFile, Flag.cloudProvider, Flag.address,
        Flag.authorizationMode, Flag.podManifestPath, Flag.clusterDns, Flag.cgroupsPerQos,
        Flag.kubeconfig, Flag.keepTerminatedPodVolumes, Flag.tlsCertFile, Flag.tlsPrivateKeyFile]
  cases os with
  | linux => exact hlinux
  | windows =>
    have hadditions : ∀ secure,
        (Dict.ofList (windowsAdditions secure)).get? Flag.allowPrivileged = none := by decide +kernel
    simp only [ofContext, windows, Dict.get?_overlay, hadditions, get?_mark, hlinux,
      Option.none_or]
    decide

end StaticFlags

/-! ### Default flags -/

namespace DefaultFlags

/-- The flags whose default is taken from the catalog. -/
def cataloged : List String :=
  [Flag.podInfraContainerImage, Flag.nodeStatusUpdateFrequency]

/-- The flags whose default hangs on the context otherwise. -/
def contextual : List String :=
  [Flag.nonMasqueradeCidr, Flag.maxPods, Flag.networkPlugin, Flag.rotateCertificates,
   Flag.tlsCipherSuites]

/-- Apart from the catalog, a flag can have a default that hangs on nothing. -/
theorem get?_ofContext_eq_or {name : String} (h : name ∉ contextual) (ctx : Context)
    (catalog : Catalog) :
    (ofContext ctx catalog).get? name =
      ((ofComponents ctx (catalog.lookup? ctx.orchestratorVersion)).reverse.lookup name).or
        (common.reverse.lookup name) := by
  simp only [contextual, List.mem_cons, List.not_mem_nil, or_false, not_or] at h
  have hmasquerade : (ofMasquerade ctx).reverse.lookup name = none := by
    cases hagent : ctx.ipMasqAgent <;> simp [ofMasquerade, hagent, h]
  have hnetwork : (ofNetwork ctx).reverse.lookup name = none := by
    cases hplugin : ctx.networkPlugin <;> by_cases hpolicy : ctx.networkPolicy = .calico <;>
      simp [ofNetwork, hplugin, hpolicy, h]
  have hversion : (ofVersion ctx).reverse.lookup name = none := by
    unfold ofVersion
    split <;> split <;> simp [Dict.lookup_cons_eq_ite, h]
  rw [ofContext, Dict.get?_ofList]
  simp only [List.reverse_append, List.lookup_append, hmasquerade, hnetwork, hversion,
    Option.none_or]

/-- **What the catalog gives.** The entry for the version is the default of two flags, which have no
other. -/
theorem get?_ofContext_cataloged (ctx : Context) (catalog : Catalog) :
    (ofContext ctx catalog).get? Flag.podInfraContainerImage =
        (catalog.lookup? ctx.orchestratorVersion).map (fun c => ctx.imageBase ++ c.pause) ∧
      (ofContext ctx catalog).get? Flag.nodeStatusUpdateFrequency =
        (catalog.lookup? ctx.orchestratorVersion).map (·.nodeStatusFrequency) := by
  have hcommon : ∀ name ∈ cataloged, common.reverse.lookup name = none := by decide
  rw [get?_ofContext_eq_or (by decide), get?_ofContext_eq_or (by decide),
    hcommon _ (by decide), hcommon _ (by decide), Option.or_none, Option.or_none]
  have hne : Flag.podInfraContainerImage ≠ Flag.nodeStatusUpdateFrequency := by decide
  cases catalog.lookup? ctx.orchestratorVersion with
  | none => exact ⟨rfl, rfl⟩
  | some c => simp [ofComponents, Dict.lookup_cons_eq_ite, hne]

/-- A flag whose default hangs on nothing has it everywhere. -/
theorem get?_ofContext_of_not_mem {name : String} (h : name ∉ cataloged ++ contextual)
    (ctx : Context) (catalog : Catalog) :
    (ofContext ctx catalog).get? name = common.reverse.lookup name := by
  obtain ⟨hcataloged, hcontextual⟩ := not_or.1 (mt List.mem_append.2 h)
  have hcomponents : (ofComponents ctx (catalog.lookup? ctx.orchestratorVersion)).reverse.lookup
      name = none := by
    simp only [cataloged, List.mem_cons, List.not_mem_nil, or_false, not_or] at hcataloged
    cases catalog.lookup? ctx.orchestratorVersion <;>
      simp [ofComponents, Dict.lookup_cons_eq_ite, hcataloged]
  rw [get?_ofContext_eq_or hcontextual, hcomponents, Option.none_or]

/-- There are no gates by default. -/
@[simp] theorem get?_featureGates (ctx : Context) (catalog : Catalog) :
    (ofContext ctx catalog).get? Flag.featureGates = none := by
  rw [get?_ofContext_of_not_mem (by decide)]
  decide

/-- The limit on process identifiers that stands where the operator sets none. -/
@[simp] theorem get?_podMaxPids (ctx : Context) (catalog : Catalog) :
    (ofContext ctx catalog).get? Flag.podMaxPids = some "100" := by
  rw [get?_ofContext_of_not_mem (by decide)]
  decide

end DefaultFlags

/-! ### The layers above one another -/

/-- The value of a flag in the layers that all roles share: the operator's map for the cluster, and
below it the computed defaults. -/
def Context.sharedValue (ctx : Context) (catalog : Catalog) (name : String) : Option String :=
  (ctx.kubeletConfig.get? name).or ((DefaultFlags.ofContext ctx catalog).get? name)

/-- The value of a flag in the first layer that holds it. -/
def Role.layeredValue (role : Role) (ctx : Context) (catalog : Catalog) (name : String) :
    Option String :=
  ((StaticFlags.ofContext ctx role.osFamily).get? name).or
    ((role.flags.get? name).or (ctx.sharedValue catalog name))

namespace Role

variable {role : Role} {ctx : Context} {name : String}

theorem layeredValue_eq_or (hstatic : (StaticFlags.ofContext ctx role.osFamily).get? name = none)
    (catalog : Catalog) :
    role.layeredValue ctx catalog name = (role.flags.get? name).or (ctx.sharedValue catalog name) := by
  rw [layeredValue, hstatic, Option.none_or]

/-- Gates can stand in the operator's two layers alone. -/
theorem layeredValue_featureGates (role : Role) (ctx : Context) (catalog : Catalog) :
    role.layeredValue ctx catalog Flag.featureGates =
      (role.flags.get? Flag.featureGates).or (ctx.kubeletConfig.get? Flag.featureGates) := by
  rw [layeredValue_eq_or (StaticFlags.get?_featureGates _ _), Context.sharedValue,
    DefaultFlags.get?_featureGates, Option.or_none]

/-- Where no static flag stands above it, a role's own value is the layered one. -/
theorem layeredValue_eq_own {value : String}
    (hstatic : (StaticFlags.ofContext ctx role.osFamily).get? name = none)
    (hown : role.flags.get? name = some value) (catalog : Catalog) :
    role.layeredValue ctx catalog name = some value := by
  rw [layeredValue_eq_or hstatic, hown, Option.some_or]

end Role

namespace Plan

open FlagMap GateSet

/-- The role's map with the static flags written over it and the gaps filled. -/
def filled (plan : Plan) (role : Role) : FlagMap :=
  ((role.flags.overlay (StaticFlags.ofContext plan.context role.osFamily)).fill plan.snapshot).1

theorem get?_snapshot (ctx : Context) (catalog : Catalog) (name : String) :
    (ofContext ctx catalog).snapshot.get? name =
      if name = Flag.featureGates then
        extend (ctx.sharedValue catalog Flag.featureGates)
          (defaultGatesAt ctx.orchestratorVersion)
      else ctx.sharedValue catalog name := by
  unfold ofContext Context.sharedValue
  rw [addDefaultGates_eq_addGates, get?_addGates _ fun _ => plainEntry_of_mem_defaultGatesAt,
    Dict.get?_fill, Dict.get?_fill]

/-- Overwriting and filling up look a flag up in its layers. -/
theorem get?_filled {name : String} (hgates : name ≠ Flag.featureGates) (ctx : Context)
    (catalog : Catalog) (role : Role) :
    ((ofContext ctx catalog).filled role).get? name = role.layeredValue ctx catalog name := by
  rw [filled, Dict.get?_fill, Dict.get?_overlay, get?_snapshot, if_neg hgates, Option.or_assoc]
  rfl

/-- A role without gates of its own finds the default gates in the snapshot. -/
theorem get?_filled_featureGates (ctx : Context) (catalog : Catalog) (role : Role) :
    ((ofContext ctx catalog).filled role).get? Flag.featureGates =
      (role.flags.get? Flag.featureGates).or
        (extend (ctx.sharedValue catalog Flag.featureGates)
          (defaultGatesAt ctx.orchestratorVersion)) := by
  rw [filled, Dict.get?_fill, Dict.get?_overlay, get?_snapshot, if_pos rfl,
    StaticFlags.get?_featureGates, Option.none_or]

end Plan

end NodeFlags
