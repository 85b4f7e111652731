import Mathlib.Data.List.Infix
import NodeFlags.Proofs.Pass
import NodeFlags.Proofs.VersionOrder

/-!
# The gates that a pass ends with

A pass adds gates in three places, each time by taking the joined text apart and
putting it together again: to the snapshot, to the role, and to a worker pool on
graphics hardware. What comes out does not show this. The text is that of the upper
of the two layers in which gates can stand, the role's own map and the operator's
map for the cluster (`Role.layeredValue_featureGates`).

* If the pass has no gate to add, the text stays as it was written, repetitions and
  blanks included.
* Otherwise it is the written entries, each as often as it was written, and after
  them the gates of the pass that are not among them.
-/

namespace NodeFlags

/-! ### Graphics hardware -/

theorem occursIn_iff {part cs : List Char} : occursIn part cs = true ↔ part <:+: cs := by
  induction cs with
  | nil => rw [occursIn, List.isEmpty_iff, List.infix_nil]
  | cons c rest ih =>
    rw [occursIn, Bool.or_eq_true, List.isPrefixOf_iff_prefix, ih, List.infix_cons_iff]

namespace Plan

open FlagMap GateSet

variable (ctx : Context) (catalog : Catalog)

theorem wantsAccelerators_iff {vmSize : String} {kind : RoleKind} :
    (ofContext ctx catalog).wantsAccelerators vmSize kind = true ↔
      kind = .workerPool ∧ gpuMarker.toList <:+: vmSize.toList ∧ ctx.gpuDevicePlugin = false ∧
        atLeast ctx.orchestratorVersion acceleratorsUntil = false := by
  simp only [wantsAccelerators, ofContext, isGpuSize, Bool.and_eq_true, beq_iff_eq, occursIn_iff,
    Bool.not_eq_true', and_assoc]

/-! ### The gates of a pass -/

/-- What a pass asks for, gate by gate. -/
theorem requiredGates_eq (vmSize : String) (kind : RoleKind) :
    (ofContext ctx catalog).requiredGates vmSize kind =
      (if atLeast ctx.orchestratorVersion "1.8.0" = true then [podPriority] else []) ++
      (if atLeast ctx.orchestratorVersion "1.11.9" = true then [rotateServerCertificate] else []) ++
      if kind = .workerPool ∧ gpuMarker.toList <:+: vmSize.toList ∧ ctx.gpuDevicePlugin = false ∧
          atLeast ctx.orchestratorVersion "1.6.0" = true ∧
          atLeast ctx.orchestratorVersion "1.11.0" = false then
        [accelerators]
      else [] := by
  have hdefault : defaultGatesAt ctx.orchestratorVersion =
      (if atLeast ctx.orchestratorVersion "1.8.0" = true then [podPriority] else []) ++
      if atLeast ctx.orchestratorVersion "1.11.9" = true then [rotateServerCertificate]
      else [] := by
    simp only [defaultGatesAt, defaultGates, List.filter_cons, List.filter_nil]
    split <;> split <;> rfl
  have haccelerators : ((ofContext ctx catalog).wantsAccelerators vmSize kind &&
        atLeast ctx.orchestratorVersion acceleratorsFrom) = true ↔
      kind = .workerPool ∧ gpuMarker.toList <:+: vmSize.toList ∧ ctx.gpuDevicePlugin = false ∧
        atLeast ctx.orchestratorVersion "1.6.0" = true ∧
        atLeast ctx.orchestratorVersion "1.11.0" = false := by
    rw [Bool.and_eq_true, wantsAccelerators_iff, acceleratorsFrom, acceleratorsUntil]
    constructor
    · rintro ⟨⟨hkind, hsize, hplugin, huntil⟩, hfrom⟩
      exact ⟨hkind, hsize, hplugin, hfrom, huntil⟩
    · rintro ⟨hkind, hsize, hplugin, hfrom, huntil⟩
      exact ⟨⟨hkind, hsize, hplugin, huntil⟩, hfrom⟩
  rw [requiredGates, ← hdefault]
  exact congrArg _ (if_congr haccelerators rfl rfl)

/-- The gates of a pass are some of three, in the order of the three. -/
theorem requiredGates_sublist (vmSize : String) (kind : RoleKind) :
    ((ofContext ctx catalog).requiredGates vmSize kind).Sublist
      [podPriority, rotateServerCertificate, accelerators] := by
  have hite : ∀ (p : Prop) [Decidable p] (entry : String),
      (if p then [entry] else []).Sublist [entry] := by
    intro p _ entry
    split
    · exact List.Sublist.refl _
    · exact List.nil_sublist _
  rw [requiredGates_eq]
  exact ((hite _ _).append (hite _ _)).append (hite _ _)

theorem nodup_requiredGates (vmSize : String) (kind : RoleKind) :
    ((ofContext ctx catalog).requiredGates vmSize kind).Nodup :=
  (requiredGates_sublist ctx catalog vmSize kind).nodup (by decide)

/-- The entries of a flag value, spelled out. -/
theorem entries_ofValue (value : Option String) :
    (ofValue value).entries = (segments (value.getD "").toList).map String.ofList := by
  cases value with
  | none => decide
  | some composite => rfl

/-- **The gates after a pass**, and that a text that is no version adds none. -/
theorem get?_resolveRole_featureGates (role : Role) (kind : RoleKind) :
    let base := (role.flags.get? Flag.featureGates).or (ctx.kubeletConfig.get? Flag.featureGates)
    let written := (segments (base.getD "").toList).map String.ofList
    let added :=
      (if atLeast ctx.orchestratorVersion "1.8.0" = true then ["PodPriority=true"] else []) ++
      (if atLeast ctx.orchestratorVersion "1.11.9" = true then
        ["RotateKubeletServerCertificate=true"] else []) ++
      if kind = .workerPool ∧ "Standard_N".toList <:+: role.vmSize.toList ∧
          ctx.gpuDevicePlugin = false ∧ atLeast ctx.orchestratorVersion "1.6.0" = true ∧
          atLeast ctx.orchestratorVersion "1.11.0" = false then
        ["Accelerators=true"]
      else []
    ∃ flags, ((ofContext ctx catalog).resolveRole role kind).kubeletConfig = some flags ∧
      flags.get? Flag.featureGates =
        (if added = [] then base.filter (· != "")
        else some (",".intercalate (written ++ added.filter fun entry => entry ∉ written))) ∧
      (Version.read? ctx.orchestratorVersion = none → added = []) := by
  intro base written added
  have hadded : (ofContext ctx catalog).requiredGates role.vmSize kind = added :=
    requiredGates_eq ctx catalog role.vmSize kind
  have hbase : role.layeredValue ctx catalog Flag.featureGates = base :=
    role.layeredValue_featureGates ctx catalog
  refine ⟨(ofContext ctx catalog).resolveFlags role kind, rfl, ?_, ?_⟩
  · have hplain : ∀ e ∈ added, PlainEntry e :=
      fun e he => plainEntry_of_mem_requiredGates (hadded.symm ▸ he)
    have hnodup : added.Nodup := hadded ▸ nodup_requiredGates ctx catalog role.vmSize kind
    rw [get?_resolveFlags_featureGates, hadded, hbase]
    by_cases hnone : added = []
    · rw [if_pos hnone, hnone]
      rfl
    · have htext : extend base added = some ((ofValue base).insertAll added).render := by
        cases hcases : added with
        | nil => exact absurd hcases hnone
        | cons entry rest => rfl
      rw [if_neg hnone, swept_eq_self (extend_ne_some_empty base hplain hnone), htext, GateSet.render,
        entries_insertAll_of_nodup hnodup, entries_ofValue]
  · intro hread
    simp [added, atLeast_eq_false_of_read?_eq_none hread]

/-- A pool on graphics hardware with an entry written twice, at a version that has gates to add and
under a text that is no version. -/
theorem get?_resolveRole_featureGates_gpu_pool :
    let pool : Role :=
      { name := "pool", vmSize := "Standard_NC6"
        kubeletConfig := some (.ofList [(Flag.featureGates, " A=true,,B=false , A=true")]) }
    (∃ flags,
      ((ofContext { orchestratorVersion := "1.9.0" } {}).resolveRole pool
        .workerPool).kubeletConfig = some flags ∧
      flags.get? Flag.featureGates =
        some "A=true,B=false,A=true,PodPriority=true,Accelerators=true") ∧
    ∃ flags,
      ((ofContext { orchestratorVersion := "latest" } {}).resolveRole pool
        .workerPool).kubeletConfig = some flags ∧
      flags.get? Flag.featureGates = some " A=true,,B=false , A=true" := by
  intro pool
  constructor
  · obtain ⟨flags, hflags, hvalue, -⟩ :=
      get?_resolveRole_featureGates { orchestratorVersion := "1.9.0" } {} pool .workerPool
    refine ⟨flags, hflags, hvalue.trans ?_⟩
    decide +kernel
  · obtain ⟨flags, hflags, hvalue, hnone⟩ :=
      get?_resolveRole_featureGates { orchestratorVersion := "latest" } {} pool .workerPool
    refine ⟨flags, hflags, hvalue.trans ?_⟩
    rw [if_pos (hnone (by decide))]
    decide

end Plan

end NodeFlags
