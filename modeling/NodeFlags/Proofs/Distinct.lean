import Mathlib.Logic.Function.Iterate
import NodeFlags.Proofs.Repetition

/-!
# Entries that stand twice

The gates of a pass are appended only where they are missing, so a pass never makes
an entry stand twice. Neither does it take apart an entry that the operator wrote
twice: what was written is kept as it was. Hence, after any number of resolutions,
the entries of a role differ from one another exactly if they do in the text that
they stem from (`Role.gateText`).

This text is the role's own or else the one for the cluster, with one exception. An
empty text of the role's own hides the one for the cluster only in the first
resolution; if that has no gate to add, the flag is gone afterwards, and the next
resolution finds the text for the cluster.
-/

namespace NodeFlags

open FlagMap GateSet

/-! ### Passes from the second one on -/

/-- No flag has the empty value after a pass. -/
theorem Plan.get?_resolveFlags_ne_blank (plan : Plan) (role : Role) (kind : RoleKind)
    (name : String) : (plan.resolveFlags role kind).get? name ≠ some "" := by
  rw [resolveFlags_eq_restrict_gated, get?_restrict]
  split
  · intro h
    exact (swept_eq_some_iff.1 h).2 rfl
  · exact nofun

section Passes

variable (ctx : Context) (catalog : Catalog) (kind : RoleKind) (upgrade : Bool)

/-- After a first pass there are no empty values left to be refilled, so a second pass settles the
role. -/
theorem iterate_passWith_add_two (role : Role) (n : Nat) :
    (passWith ctx catalog kind upgrade)^[n + 2] role =
      passWith ctx catalog kind upgrade (passWith ctx catalog kind upgrade role) := by
  have hfull : ∀ name, ¬ (passWith ctx catalog kind upgrade role).Refilled ctx catalog kind name :=
    fun name h => Plan.get?_resolveFlags_ne_blank _ role kind name h.blank
  rw [Function.iterate_add_apply]
  exact Function.iterate_fixed ((passWith_idempotent_iff ctx catalog kind _ upgrade).2 hfull) n

/-- The gates after a pass, by the layers. -/
theorem ofFlags_passWith_eq_insertAll (role : Role) :
    ofFlags (passWith ctx catalog kind upgrade role).flags =
      (ofValue ((role.flags.get? Flag.featureGates).or
          (ctx.kubeletConfig.get? Flag.featureGates))).insertAll
        ((Plan.ofContext ctx catalog).requiredGates role.vmSize kind) := by
  rw [← role.layeredValue_featureGates ctx catalog]
  exact Plan.ofFlags_resolveFlags_eq_insertAll { ctx with isUpgrade := upgrade } catalog role kind

end Passes

/-! ### The text that the gates stem from -/

/-- The operator's text that the gates of a role stem from, after `n` resolutions and one more. -/
def Role.gateText (role : Role) (ctx : Context) (catalog : Catalog) (kind : RoleKind) (n : Nat) :
    Option String :=
  if n ≠ 0 ∧ role.flags.get? Flag.featureGates = some "" ∧
      (Plan.ofContext ctx catalog).requiredGates role.vmSize kind = [] then
    ctx.kubeletConfig.get? Flag.featureGates
  else (role.flags.get? Flag.featureGates).or (ctx.kubeletConfig.get? Flag.featureGates)

/-- A text that is swept is looked for again in the layer below. Other entries are found there only
if the upper text was the empty one. -/
theorem GateSet.ofValue_swept_or (own shared : Option String) :
    ofValue ((swept (own.or shared)).or shared) =
      ofValue (if own = some "" then shared else own.or shared) := by
  cases own with
  | none =>
    rw [Option.none_or, if_neg nofun]
    by_cases hshared : shared = some removalMark
    · rw [hshared]
      rfl
    · rw [swept_eq_self hshared, Option.or_self]
  | some value =>
    rw [Option.some_or]
    by_cases hvalue : value = removalMark
    · rw [hvalue, swept_removalMark, Option.none_or]
      exact congrArg ofValue (if_pos rfl).symm
    · rw [swept_some hvalue, Option.some_or]
      exact congrArg ofValue (if_neg fun h => hvalue (Option.some.inj h)).symm

section Passes

variable (ctx : Context) (catalog : Catalog) (kind : RoleKind) (upgrade : Bool) (role : Role)

theorem ofFlags_passWith_passWith_eq_insertAll :
    ofFlags (passWith ctx catalog kind upgrade (passWith ctx catalog kind upgrade role)).flags =
      (ofValue (role.gateText ctx catalog kind 1)).insertAll
        ((Plan.ofContext ctx catalog).requiredGates role.vmSize kind) := by
  rw [ofFlags_passWith_eq_insertAll, get?_passWith_featureGates, role.layeredValue_featureGates,
    Role.gateText]
  change GateSet.insertAll _ ((Plan.ofContext ctx catalog).requiredGates role.vmSize kind) = _
  by_cases hnone : (Plan.ofContext ctx catalog).requiredGates role.vmSize kind = []
  · rw [hnone]
    have hcond : (1 ≠ 0 ∧ role.flags.get? Flag.featureGates = some "" ∧
        ([] : List String) = []) ↔ role.flags.get? Flag.featureGates = some "" := by simp
    rw [if_congr hcond rfl rfl]
    exact congrArg (·.insertAll []) (ofValue_swept_or _ _)
  · have hplain : ∀ e ∈ (Plan.ofContext ctx catalog).requiredGates role.vmSize kind,
        PlainEntry e := fun _ => Plan.plainEntry_of_mem_requiredGates
    obtain ⟨text, htext⟩ := Option.isSome_iff_exists.1 (isSome_extend
      ((role.flags.get? Flag.featureGates).or (ctx.kubeletConfig.get? Flag.featureGates)) hnone)
    rw [swept_eq_self (extend_ne_some_empty _ hplain hnone), htext, Option.some_or, ← htext,
      ofValue_extend _ hplain, insertAll_insertAll, if_neg fun h => hnone h.2.2]

/-- **The gates after any number of passes**, at least one. -/
theorem ofFlags_iterate_passWith (n : Nat) :
    ofFlags ((passWith ctx catalog kind upgrade)^[n + 1] role).flags =
      (ofValue (role.gateText ctx catalog kind n)).insertAll
        ((Plan.ofContext ctx catalog).requiredGates role.vmSize kind) := by
  cases n with
  | zero =>
    rw [Role.gateText, if_neg fun h => h.1 rfl]
    exact ofFlags_passWith_eq_insertAll ctx catalog kind upgrade role
  | succ n =>
    have htext : role.gateText ctx catalog kind (n + 1) = role.gateText ctx catalog kind 1 :=
      if_congr (and_congr_left' (iff_of_true n.succ_ne_zero Nat.one_ne_zero)) rfl rfl
    rw [htext, iterate_passWith_add_two]
    exact ofFlags_passWith_passWith_eq_insertAll ctx catalog kind upgrade role

theorem nodup_entries_iterate_passWith_iff (n : Nat) :
    (ofFlags ((passWith ctx catalog kind upgrade)^[n + 1] role).flags).entries.Nodup ↔
      (ofValue (role.gateText ctx catalog kind n)).entries.Nodup := by
  rw [ofFlags_iterate_passWith, nodup_entries_insertAll_iff]

end Passes

/-! ### Clusters -/

namespace Definition

/-- Resolving a cluster again and again is resolving each role again and again. -/
theorem iterate_resolve (d : Definition) (n : Nat) :
    resolve^[n] d =
      { d with
        controlPlane := d.controlPlane.map
          (passWith d.context d.catalog .controlPlane d.context.isUpgrade)^[n]
        workerPools := d.workerPools.map
          (passWith d.context d.catalog .workerPool d.context.isUpgrade)^[n] } := by
  induction n with
  | zero => simp
  | succ n ih =>
    rw [Function.iterate_succ_apply', ih, Function.iterate_succ', Function.iterate_succ',
      ← Option.map_map, ← List.map_map]
    rfl

/-- **When entries stand twice**: after any number of resolutions, at least one, the entries of a
role differ from one another exactly if those of the operator's text do. -/
theorem nodup_entries_iterate_resolve_iff (d : Definition) (n : Nat) :
    (∀ role, d.controlPlane = some role →
      ∃ resolved, (resolve^[n + 1] d).controlPlane = some resolved ∧
        ((ofFlags resolved.flags).entries.Nodup ↔
          (ofValue (role.gateText d.context d.catalog .controlPlane n)).entries.Nodup)) ∧
    ∀ (i : Nat) (role : Role), d.workerPools[i]? = some role →
      ∃ resolved, (resolve^[n + 1] d).workerPools[i]? = some resolved ∧
        ((ofFlags resolved.flags).entries.Nodup ↔
          (ofValue (role.gateText d.context d.catalog .workerPool n)).entries.Nodup) := by
  rw [iterate_resolve]
  constructor
  · intro role hrole
    exact ⟨_, congrArg (Option.map _) hrole, nodup_entries_iterate_passWith_iff _ _ _ _ role n⟩
  · intro i role hrole
    refine ⟨_, ?_, nodup_entries_iterate_passWith_iff _ _ _ d.context.isUpgrade role n⟩
    rw [List.getElem?_map, hrole, Option.map_some]

/-- A pool with two entries for one gate, after two resolutions. -/
theorem nodup_entries_resolve_resolve_pool :
    let d : Definition :=
      { context := { orchestratorVersion := "1.12.8" }
        workerPools := [{ name := "pool"
                          kubeletConfig :=
                            some (.ofList [(Flag.featureGates, "A=true, A=false")]) }] }
    ∃ resolved, (resolve^[2] d).workerPools[0]? = some resolved ∧
      (ofFlags resolved.flags).entries.Nodup := by
  intro d
  obtain ⟨resolved, hresolved, hnodup⟩ :=
    (nodup_entries_iterate_resolve_iff d 1).2 0 _ rfl
  exact ⟨resolved, hresolved, hnodup.2 (by decide +kernel)⟩

/-- An entry that a pool's text holds twice is there twice after a resolution. -/
theorem resolve_keeps_repeated_entry :
    let d : Definition :=
      { context := { orchestratorVersion := "1.12.8" }
        workerPools := [{ name := "pool"
                          kubeletConfig :=
                            some (.ofList [(Flag.featureGates, "A=true,A=true")]) }] }
    ¬ ∀ role ∈ (resolve^[1] d).roles, (ofFlags role.flags).entries.Nodup := by
  intro d h
  let pool : Role :=
    { name := "pool"
      kubeletConfig := some (.ofList [(Flag.featureGates, "A=true,A=true")]) }
  have hpool := h (passWith d.context d.catalog .workerPool false pool) List.mem_cons_self
  have hwritten := (nodup_entries_iterate_passWith_iff d.context d.catalog .workerPool false pool
    0).1 hpool
  exact absurd hwritten (by decide +kernel)

end Definition

end NodeFlags
