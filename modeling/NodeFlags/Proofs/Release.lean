import Mathlib.Data.List.Basic
import NodeFlags.Proofs.Pass
import NodeFlags.Proofs.VersionOrder

/-!
# What a pass learns of the version

The orchestrator version is a text, and a pass asks only two things of it: which of
a handful of thresholds it meets (`thresholds`), and what its minor release is. Two
texts with the same answers (`Undistinguished`) are therefore treated alike by every
step of a pass, the steps that act below a threshold included.

Build metadata take part in the order of versions, but no threshold has any, and a
version with build metadata stands above the same one without. So the answers hang
on the release numbers and the pre-release alone (`SameRelease`). Texts that are no
versions have the same answers too: they meet no threshold and have no minor release.
-/

namespace NodeFlags

/-! ### Versions of one release -/

namespace Version

/-- The order of versions up to the build metadata. -/
def cmpRelease (v t : Version) : Ordering :=
  (compare v.major t.major).then <| (compare v.minor t.minor).then <|
    (compare v.patch t.patch).then (cmpPre v.pre t.pre)

/-- Build metadata are compared last. -/
theorem cmp_eq_then (v t : Version) :
    v.cmp t = (v.cmpRelease t).then (Identifier.cmpList v.build t.build) := by
  unfold cmp cmpRelease
  simp only [Ordering.then_assoc]

/-- No list of identifiers stands before the empty one. -/
theorem isGE_cmpList_nil (ids : List Identifier) : (Identifier.cmpList ids []).isGE = true := by
  cases ids <;> rfl

/-- Whether a version is at or above one without build metadata does not hang on its own. -/
theorem isGE_cmp_of_build_eq_nil {t : Version} (ht : t.build = []) (v : Version) :
    (v.cmp t).isGE = (v.cmpRelease t).isGE := by
  rw [cmp_eq_then, ht]
  cases v.cmpRelease t with
  | lt => rfl
  | eq => exact isGE_cmpList_nil v.build
  | gt => rfl

end Version

/-- Two texts that denote versions of one release, or that are both no versions. -/
inductive SameRelease (a b : String) : Prop where
  | unreadable (ha : Version.read? a = none) (hb : Version.read? b = none)
  | released {v w : Version} (ha : Version.read? a = some v) (hb : Version.read? b = some w)
      (major : v.major = w.major) (minor : v.minor = w.minor) (patch : v.patch = w.patch)
      (pre : v.pre = w.pre)

namespace SameRelease

variable {a b : String}

/-- A threshold without build metadata does not tell versions of one release apart. -/
theorem atLeast_eq (h : SameRelease a b) {threshold : String} {t : Version}
    (hread : Version.read? threshold = some t) (hbuild : t.build = []) :
    atLeast a threshold = atLeast b threshold := by
  cases h with
  | unreadable ha hb =>
    rw [atLeast_eq_false_of_read?_eq_none ha, atLeast_eq_false_of_read?_eq_none hb]
  | @released v w ha hb major minor patch pre =>
    have hrelease : v.cmpRelease t = w.cmpRelease t := by
      rw [Version.cmpRelease, Version.cmpRelease, major, minor, patch, pre]
    have hgate : ∀ {s : String} {u : Version}, Version.read? s = some u →
        atLeast s threshold = (u.cmpRelease t).isGE := by
      intro s u hs
      rw [atLeast, hs, hread, ← Version.isGE_cmp_of_build_eq_nil hbuild u]
    rw [hgate ha, hgate hb, hrelease]

theorem minorKey?_eq (h : SameRelease a b) : minorKey? a = minorKey? b := by
  cases h with
  | unreadable ha hb => rw [minorKey?, minorKey?, ha, hb]
  | released ha hb major minor _ _ =>
    rw [minorKey?, minorKey?, ha, hb, Option.map_some, Option.map_some, Version.minorKey,
      Version.minorKey, major, minor]

end SameRelease

/-! ### What is asked of a version -/

/-- The versions that a pass compares its own with. -/
def thresholds : List String :=
  [DefaultFlags.rotateCertificatesFrom, DefaultFlags.cipherSuitesFrom, acceleratorsFrom,
    acceleratorsUntil, pidClampFrom] ++
  FlagMap.defaultGates.map (·.1) ++ FlagMap.introducedIn.map (·.2) ++ FlagMap.retiredIn.map (·.2)

/-- Every threshold is a version without build metadata. -/
theorem build_eq_nil_of_mem_thresholds {threshold : String} (h : threshold ∈ thresholds) :
    ∃ t, Version.read? threshold = some t ∧ t.build = [] := by
  have hall : ∀ s ∈ thresholds, (Version.read? s).map Version.build = some [] := by decide +kernel
  exact Option.map_eq_some_iff.1 (hall threshold h)

/-- Two version texts between which a pass cannot tell. -/
structure Undistinguished (a b : String) : Prop where
  meets : ∀ threshold ∈ thresholds, atLeast a threshold = atLeast b threshold
  minorKey : minorKey? a = minorKey? b

/-- **A pass sees only the release of a version.** -/
theorem SameRelease.undistinguished {a b : String} (h : SameRelease a b) :
    Undistinguished a b where
  meets threshold hmem := by
    obtain ⟨t, hread, hbuild⟩ := build_eq_nil_of_mem_thresholds hmem
    exact h.atLeast_eq hread hbuild
  minorKey := h.minorKey?_eq

/-! ### The steps of a pass -/

/-- A context with another version. -/
def Context.atVersion (ctx : Context) (version : String) : Context :=
  { ctx with orchestratorVersion := version }

namespace Undistinguished

variable {a b : String} (h : Undistinguished a b)

include h

theorem lookup?_eq (catalog : Catalog) : catalog.lookup? a = catalog.lookup? b := by
  rw [Catalog.lookup?, Catalog.lookup?, h.minorKey]

theorem defaultFlags_eq (ctx : Context) (catalog : Catalog) :
    DefaultFlags.ofContext (ctx.atVersion a) catalog =
      DefaultFlags.ofContext (ctx.atVersion b) catalog := by
  have hrotate : atLeast a DefaultFlags.rotateCertificatesFrom =
      atLeast b DefaultFlags.rotateCertificatesFrom := h.meets _ (by decide)
  have hsuites : atLeast a DefaultFlags.cipherSuitesFrom =
      atLeast b DefaultFlags.cipherSuitesFrom := h.meets _ (by decide)
  have hversion :
      DefaultFlags.ofVersion (ctx.atVersion a) = DefaultFlags.ofVersion (ctx.atVersion b) := by
    unfold DefaultFlags.ofVersion Context.atVersion
    rw [hrotate, hsuites]
  have hcomponents : DefaultFlags.ofComponents (ctx.atVersion a) (catalog.lookup? a) =
      DefaultFlags.ofComponents (ctx.atVersion b) (catalog.lookup? b) := by
    rw [h.lookup?_eq]
    rfl
  unfold DefaultFlags.ofContext
  rw [hversion]
  exact congrArg (fun entries => Dict.ofList
    (DefaultFlags.common ++ entries ++ DefaultFlags.ofMasquerade ctx ++ DefaultFlags.ofNetwork ctx ++
      DefaultFlags.ofVersion (ctx.atVersion b))) hcomponents

theorem defaultGatesAt_eq : FlagMap.defaultGatesAt a = FlagMap.defaultGatesAt b := by
  have hmem : ∀ gate ∈ FlagMap.defaultGates, gate.1 ∈ thresholds := by decide
  exact congrArg (List.map (·.2))
    (List.filter_congr fun gate hgate => h.meets gate.1 (hmem gate hgate))

theorem dropUnborn_eq (flags : FlagMap) : flags.dropUnborn a = flags.dropUnborn b := by
  have hmem : ∀ w ∈ FlagMap.introducedIn, w.2 ∈ thresholds := by decide
  refine List.foldl_ext _ _ _ fun acc w hw => ?_
  rw [h.meets w.2 (hmem w hw)]

theorem dropRetired_eq (flags : FlagMap) : flags.dropRetired a = flags.dropRetired b := by
  have hmem : ∀ w ∈ FlagMap.retiredIn, w.2 ∈ thresholds := by decide
  refine List.foldl_ext _ _ _ fun acc w hw => ?_
  rw [h.meets w.2 (hmem w hw)]

theorem restrict_eq (flags : FlagMap) : flags.restrict a = flags.restrict b := by
  rw [FlagMap.restrict, FlagMap.restrict, h.dropUnborn_eq, h.dropRetired_eq]

variable (ctx : Context) (catalog : Catalog)

theorem snapshot_eq :
    (Plan.ofContext (ctx.atVersion a) catalog).snapshot =
      (Plan.ofContext (ctx.atVersion b) catalog).snapshot := by
  unfold Plan.ofContext
  rw [h.defaultFlags_eq ctx catalog, FlagMap.addDefaultGates_eq_addGates,
    FlagMap.addDefaultGates_eq_addGates]
  exact congrArg (FlagMap.addGates _) h.defaultGatesAt_eq

theorem requiredGates_eq (vmSize : String) (kind : RoleKind) :
    (Plan.ofContext (ctx.atVersion a) catalog).requiredGates vmSize kind =
      (Plan.ofContext (ctx.atVersion b) catalog).requiredGates vmSize kind := by
  have huntil : atLeast a acceleratorsUntil = atLeast b acceleratorsUntil := h.meets _ (by decide)
  have hfrom : atLeast a acceleratorsFrom = atLeast b acceleratorsFrom := h.meets _ (by decide)
  unfold Plan.requiredGates Plan.wantsAccelerators Plan.ofContext Context.atVersion
  rw [h.defaultGatesAt_eq, huntil, hfrom]

theorem clampsPidLimit_eq :
    (Plan.ofContext (ctx.atVersion a) catalog).clampsPidLimit =
      (Plan.ofContext (ctx.atVersion b) catalog).clampsPidLimit := by
  have hfrom : atLeast a pidClampFrom = atLeast b pidClampFrom := h.meets _ (by decide)
  unfold Plan.clampsPidLimit Plan.ofContext Context.atVersion
  rw [hfrom]

theorem gated_eq (role : Role) (kind : RoleKind) :
    (Plan.ofContext (ctx.atVersion a) catalog).gated role kind =
      (Plan.ofContext (ctx.atVersion b) catalog).gated role kind := by
  -- the static flags do not hang on the version at all
  have hstatic : StaticFlags.ofContext (ctx.atVersion a) role.osFamily =
      StaticFlags.ofContext (ctx.atVersion b) role.osFamily := by
    cases role.osFamily <;> rfl
  have hfilled : (Plan.ofContext (ctx.atVersion a) catalog).filled role =
      (Plan.ofContext (ctx.atVersion b) catalog).filled role := by
    rw [Plan.filled, Plan.filled, h.snapshot_eq]
    exact congrArg (fun pinned => ((role.flags.overlay pinned).fill _).1) hstatic
  rw [Plan.gated, Plan.gated, hfilled, h.requiredGates_eq]

/-- A pass treats a role alike under two versions between which it cannot tell. -/
theorem resolveRole_eq (role : Role) (kind : RoleKind) :
    (Plan.ofContext (ctx.atVersion a) catalog).resolveRole role kind =
      (Plan.ofContext (ctx.atVersion b) catalog).resolveRole role kind := by
  unfold Plan.resolveRole
  rw [Plan.resolveFlags_eq_restrict_gated, Plan.resolveFlags_eq_restrict_gated, h.gated_eq,
    h.clampsPidLimit_eq]
  exact congrArg (fun flags => { role with kubeletConfig := some flags }) (h.restrict_eq _)

end Undistinguished

/-! ### Clusters -/

namespace Definition

/-- A cluster with another version. -/
def atVersion (d : Definition) (version : String) : Definition :=
  { d with context := d.context.atVersion version }

/-- **Only the release of the version shows in a cluster's flags.** Of two clusters that differ in
the text of the version alone, and in it not beyond the build metadata and the way a version is
written, or not beyond two texts that are no versions, every role receives the same flags. -/
theorem resolve_eq_of_sameRelease (d e : Definition)
    (hversion : e.atVersion d.context.orchestratorVersion = d)
    (hrelease : SameRelease d.context.orchestratorVersion e.context.orchestratorVersion) :
    d.resolve.controlPlane = e.resolve.controlPlane ∧
      d.resolve.workerPools = e.resolve.workerPools := by
  generalize d.context.orchestratorVersion = version at hversion hrelease
  subst hversion
  have hrole : ∀ role kind,
      (Plan.ofContext (e.context.atVersion version) e.catalog).resolveRole role kind =
        (Plan.ofContext e.context e.catalog).resolveRole role kind :=
    fun role kind => hrelease.undistinguished.resolveRole_eq e.context e.catalog role kind
  constructor
  · exact congrArg (Option.map · e.controlPlane) (funext fun role => hrole role .controlPlane)
  · exact congrArg (List.map · e.workerPools) (funext fun role => hrole role .workerPool)

/-- A version with blanks, a mark and build metadata beside the bare one, and two texts that are no
versions. -/
theorem resolve_eq_written_otherwise :
    let cluster (version : String) : Definition :=
      { context := { orchestratorVersion := version }
        workerPools := [{ name := "pool", vmSize := "Standard_NC6" }] }
    (cluster " v1.15.0-beta.1+b.007\n").resolve.workerPools =
        (cluster "1.15.0-beta.1").resolve.workerPools ∧
      (cluster "1.15").resolve.workerPools = (cluster "latest").resolve.workerPools := by
  intro cluster
  have hwritten : SameRelease " v1.15.0-beta.1+b.007\n" "1.15.0-beta.1" := by
    refine .released (v := ⟨1, 15, 0, [.word "beta", .numeric 1 0], [.word "b", .numeric 7 2]⟩)
      (w := ⟨1, 15, 0, [.word "beta", .numeric 1 0], []⟩) ?_ ?_ rfl rfl rfl rfl
    · decide +kernel
    · decide +kernel
  have hunreadable : SameRelease "1.15" "latest" :=
    .unreadable (by decide +kernel) (by decide +kernel)
  exact ⟨(resolve_eq_of_sameRelease (cluster _) (cluster _) rfl hwritten).2,
    (resolve_eq_of_sameRelease (cluster _) (cluster _) rfl hunreadable).2⟩

end Definition

end NodeFlags
