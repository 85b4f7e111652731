import NodeFlags.Proofs.Layers

/-!
# What a pass makes of each flag

A pass is a sequence of steps over whole maps. Here each step is seen through a
single flag, and the steps are put together: the resolved value of a flag is a
function of its layered value (`Role.layeredValue`). There are three equations,

* `Plan.get?_resolveFlags` for the flags that no step treats by name but the version
  window,
* `Plan.get?_resolveFlags_featureGates` for the gates,
* `Plan.get?_resolveFlags_podMaxPids` for the limit on process identifiers, which
  also depends on the gates that the pass ends with.

What is proved of passes elsewhere is proved from these equations; the steps are not
opened again.
-/

namespace NodeFlags

namespace FlagMap

/-! ### The version window and the sweep -/

/-- What the sweep leaves of a value. -/
def swept (value : Option String) : Option String :=
  value.filter (· != removalMark)

theorem swept_eq_some_iff {value : Option String} {v : String} :
    swept value = some v ↔ value = some v ∧ v ≠ removalMark := by
  simp [swept]

theorem swept_some {v : String} (h : v ≠ removalMark) : swept (some v) = some v :=
  swept_eq_some_iff.2 ⟨rfl, h⟩

theorem swept_eq_self {value : Option String} (h : value ≠ some removalMark) :
    swept value = value := by
  cases value with
  | none => rfl
  | some v => exact swept_some fun hv => h (congrArg some hv)

@[simp] theorem swept_removalMark : swept (some removalMark) = none := by decide

@[simp] theorem swept_none : swept none = none := rfl

/-- Whether no entry of the two tables speaks against a flag. -/
def accepts (version name : String) : Bool :=
  !(introducedIn.any fun w => w.1 == name && !atLeast version w.2) &&
    !(retiredIn.any fun w => w.1 == name && atLeast version w.2)

theorem accepts_iff {version name : String} :
    accepts version name = true ↔
      (name = Flag.podMaxPids → atLeast version "1.10.0" = true) ∧
      (name = Flag.cadvisorPort → atLeast version "1.12.0" = false) ∧
      (name = Flag.allowPrivileged → atLeast version "1.15.0-beta.1" = false) := by
  simp only [accepts, introducedIn, retiredIn, List.any_cons, List.any_nil, Bool.or_false,
    Bool.not_and, Bool.not_or, Bool.not_not, Bool.and_eq_true, Bool.or_eq_true, Bool.not_eq_true',
    beq_eq_false_iff_ne, ne_eq, eq_comm (a := name), imp_iff_not_or]

/-- The flag of the gates is accepted by every version. -/
theorem accepts_featureGates (version : String) : accepts version Flag.featureGates = true :=
  accepts_iff.2 ⟨fun h => absurd h (by decide), fun h => absurd h (by decide),
    fun h => absurd h (by decide)⟩

theorem accepts_podMaxPids (version : String) :
    accepts version Flag.podMaxPids = atLeast version "1.10.0" := by
  rw [Bool.eq_iff_iff, accepts_iff]
  exact ⟨fun h => h.1 rfl,
    fun h => ⟨fun _ => h, fun h => absurd h (by decide), fun h => absurd h (by decide)⟩⟩

/-- Removing the flags of a table whose version is one of the unwanted ones. -/
theorem get?_foldl_erase {step : FlagMap → String × String → FlagMap} (unwanted : String → Bool)
    (hstep : ∀ flags w, step flags w = if unwanted w.2 then flags.erase w.1 else flags)
    (table : List (String × String)) (flags : FlagMap) (name : String) :
    (table.foldl step flags).get? name =
      if table.any (fun w => w.1 == name && unwanted w.2) then none else flags.get? name := by
  induction table generalizing flags with
  | nil => rfl
  | cons w rest ih =>
    rw [List.foldl_cons, ih, hstep, List.any_cons]
    cases hw : unwanted w.2 with
    | false => rw [Bool.and_false, Bool.false_or, if_neg Bool.false_ne_true]
    | true =>
      rw [Bool.and_true, if_pos rfl, Dict.get?_erase]
      by_cases hname : name = w.1
      · rw [if_pos hname, hname, beq_self_eq_true, Bool.true_or, if_pos rfl, ite_self]
      · rw [if_neg hname, beq_false_of_ne (Ne.symm hname), Bool.false_or]

theorem get?_dropUnborn (flags : FlagMap) (version name : String) :
    (flags.dropUnborn version).get? name =
      if introducedIn.any (fun w => w.1 == name && !atLeast version w.2) then none
      else flags.get? name := by
  refine get?_foldl_erase (fun t => !atLeast version t) (fun acc w => ?_) _ _ _
  cases atLeast version w.2 <;> rfl

theorem get?_dropRetired (flags : FlagMap) (version name : String) :
    (flags.dropRetired version).get? name =
      if retiredIn.any (fun w => w.1 == name && atLeast version w.2) then none
      else flags.get? name :=
  get?_foldl_erase (atLeast version) (fun _ _ => rfl) _ _ _

/-- **What the last step keeps**: a flag that the version accepts, if its value is not the mark. -/
theorem get?_restrict (flags : FlagMap) (version name : String) :
    (flags.restrict version).get? name =
      if accepts version name then swept (flags.get? name) else none := by
  unfold restrict sweep accepts
  rw [Dict.get?_filter, get?_dropRetired, get?_dropUnborn]
  cases introducedIn.any fun w => w.1 == name && !atLeast version w.2 <;>
    cases retiredIn.any fun w => w.1 == name && atLeast version w.2 <;> rfl

/-! ### The limit on process identifiers -/

/-- A limit after the clamp, given whether the clamp is at work and the gates beside the limit. -/
def clampValue (active : Bool) (gates : GateSet) (value : String) : String :=
  if active ∧ 0 < pidLimit (some value) ∧ ¬ gates.contains GateSet.supportPodPidsLimit then
    pidLimitDisabled
  else value

@[simp] theorem clampValue_false (gates : GateSet) (value : String) :
    clampValue false gates value = value :=
  if_neg fun h => Bool.false_ne_true h.1

theorem clampValue_eq_removalMark_iff {active : Bool} {gates : GateSet} {value : String} :
    clampValue active gates value = removalMark ↔ value = removalMark := by
  unfold clampValue
  split
  · rename_i h
    have hvalue : value ≠ removalMark := by
      rintro rfl
      exact absurd h.2.1 (by decide)
    exact iff_of_false (by decide) hvalue
  · rfl

/-- A limit that is disabled stays so. -/
theorem clampValue_pidLimitDisabled (active : Bool) (gates : GateSet) :
    clampValue active gates pidLimitDisabled = pidLimitDisabled := by
  unfold clampValue
  split <;> rfl

/-- Two clamps beside the same gates are one, at work if one of them is. -/
theorem clampValue_clampValue (first second : Bool) (gates : GateSet) (value : String) :
    clampValue second gates (clampValue first gates value) =
      clampValue (first || second) gates value := by
  cases first with
  | false => simp
  | true =>
    by_cases h : 0 < pidLimit (some value) ∧ ¬ gates.contains GateSet.supportPodPidsLimit
    · have hfirst : ∀ second, clampValue (true || second) gates value = pidLimitDisabled :=
        fun _ => if_pos ⟨rfl, h⟩
      rw [hfirst, ← Bool.or_false true, hfirst, clampValue_pidLimitDisabled]
    · have hkeep : ∀ active, clampValue active gates value = value :=
        fun _ => if_neg fun hc => h hc.2
      rw [hkeep, hkeep, hkeep]

/-- The clamp treats no flag but the limit. -/
theorem get?_clampPidLimit (flags : FlagMap) (name : String) :
    flags.clampPidLimit.get? name =
      if name = Flag.podMaxPids then
        (flags.get? Flag.podMaxPids).map (clampValue true (GateSet.ofFlags flags))
      else flags.get? name := by
  unfold clampPidLimit
  by_cases hname : name = Flag.podMaxPids
  · subst hname
    rw [if_pos rfl]
    cases hpids : flags.get? Flag.podMaxPids with
    | none => simp [pidLimit, hpids]
    | some value =>
      rw [Option.map_some, clampValue]
      by_cases h : 0 < pidLimit (some value) ∧
          ¬ (GateSet.ofFlags flags).contains GateSet.supportPodPidsLimit
      · rw [if_pos h, if_pos ⟨rfl, h⟩, Dict.get?_insert, if_pos rfl]
      · rw [if_neg h, if_neg fun hc => h hc.2, hpids]
  · rw [if_neg hname]
    split
    · rw [Dict.get?_insert, if_neg hname]
    · rfl

/-- The clamp where it may be at work or not. -/
theorem get?_ite_clampPidLimit (flags : FlagMap) (active : Bool) (name : String) :
    (if active then flags.clampPidLimit else flags).get? name =
      if name = Flag.podMaxPids then
        (flags.get? Flag.podMaxPids).map (clampValue active (GateSet.ofFlags flags))
      else flags.get? name := by
  cases active with
  | true => exact get?_clampPidLimit flags name
  | false =>
    have hkeep : clampValue false (GateSet.ofFlags flags) = id :=
      funext fun value => clampValue_false _ value
    rw [if_neg Bool.false_ne_true, hkeep, Option.map_id, id]
    split
    · rename_i hname
      rw [hname]
    · rfl

end FlagMap

/-- The mark states no gates, so sweeping it away loses none. -/
theorem GateSet.ofValue_swept (value : Option String) :
    ofValue (FlagMap.swept value) = ofValue value := by
  cases value with
  | none => rfl
  | some v =>
    by_cases h : v = FlagMap.removalMark
    · subst h
      rw [FlagMap.swept_removalMark]
      decide
    · rw [FlagMap.swept_some h]

namespace Plan

open FlagMap GateSet

/-! ### The steps put together -/

/-- The gates that a pass adds to a role. -/
def requiredGates (plan : Plan) (vmSize : String) (kind : RoleKind) : List String :=
  defaultGatesAt plan.context.orchestratorVersion ++
    if plan.wantsAccelerators vmSize kind &&
        atLeast plan.context.orchestratorVersion acceleratorsFrom then
      [accelerators]
    else []

theorem plainEntry_of_mem_requiredGates {plan : Plan} {vmSize : String} {kind : RoleKind}
    {entry : String} (h : entry ∈ plan.requiredGates vmSize kind) : PlainEntry entry := by
  rcases List.mem_append.1 h with h | h
  · exact plainEntry_of_mem_defaultGatesAt h
  · split at h
    · rw [List.mem_singleton.1 h]
      decide
    · exact absurd h List.not_mem_nil

/-- The role's map before the clamp and the version window. -/
def gated (plan : Plan) (role : Role) (kind : RoleKind) : FlagMap :=
  (plan.filled role).addGates (plan.requiredGates role.vmSize kind)

theorem resolveFlags_eq_restrict_gated (plan : Plan) (role : Role) (kind : RoleKind) :
    plan.resolveFlags role kind =
      (if plan.clampsPidLimit then (plan.gated role kind).clampPidLimit
        else plan.gated role kind).restrict plan.context.orchestratorVersion := by
  have hgated : plan.gated role kind =
      if plan.wantsAccelerators role.vmSize kind then
        ((plan.filled role).addDefaultGates plan.context.orchestratorVersion).addGate
          plan.context.orchestratorVersion acceleratorsFrom accelerators
      else (plan.filled role).addDefaultGates plan.context.orchestratorVersion := by
    rw [gated, requiredGates, addGates_append, ← addDefaultGates_eq_addGates]
    cases plan.wantsAccelerators role.vmSize kind with
    | false => rfl
    | true => rw [if_pos rfl, addGate_eq_addGates, Bool.true_and]
  rw [hgated]
  rfl

theorem get?_gated {name : String} (h : name ≠ Flag.featureGates) (plan : Plan) (role : Role)
    (kind : RoleKind) : (plan.gated role kind).get? name = (plan.filled role).get? name := by
  rw [gated, get?_addGates _ fun _ => plainEntry_of_mem_requiredGates, if_neg h]

variable (ctx : Context) (catalog : Catalog) (role : Role) (kind : RoleKind)

/-- The snapshot holds the first of the gates that a role needs, so it makes no difference whether
the role's gates come from there or from below. -/
theorem get?_gated_featureGates :
    ((ofContext ctx catalog).gated role kind).get? Flag.featureGates =
      extend (role.layeredValue ctx catalog Flag.featureGates)
        ((ofContext ctx catalog).requiredGates role.vmSize kind) := by
  rw [gated, get?_addGates _ fun _ => plainEntry_of_mem_requiredGates, if_pos rfl,
    get?_filled_featureGates, Role.layeredValue_eq_or (StaticFlags.get?_featureGates _ _)]
  cases role.flags.get? Flag.featureGates with
  | some value => rfl
  | none =>
    rw [Option.none_or, Option.none_or]
    exact extend_extend_append _ (fun _ => plainEntry_of_mem_defaultGatesAt) _

/-- **Gates after a pass**: the layered gates followed by the missing ones. -/
theorem get?_resolveFlags_featureGates :
    ((ofContext ctx catalog).resolveFlags role kind).get? Flag.featureGates =
      swept (extend (role.layeredValue ctx catalog Flag.featureGates)
        ((ofContext ctx catalog).requiredGates role.vmSize kind)) := by
  have hne : Flag.featureGates ≠ Flag.podMaxPids := by decide
  rw [resolveFlags_eq_restrict_gated, get?_restrict, get?_ite_clampPidLimit, if_neg hne,
    get?_gated_featureGates]
  exact if_pos (accepts_featureGates _)

theorem ofFlags_resolveFlags :
    ofFlags ((ofContext ctx catalog).resolveFlags role kind) =
      ofFlags ((ofContext ctx catalog).gated role kind) := by
  rw [ofFlags_eq_ofValue, get?_resolveFlags_featureGates, ofValue_swept,
    ← get?_gated_featureGates]
  rfl

/-- The gates that a pass ends with are the layered ones and the required ones that are missing
among them. -/
theorem ofFlags_resolveFlags_eq_insertAll :
    ofFlags ((ofContext ctx catalog).resolveFlags role kind) =
      (ofValue (role.layeredValue ctx catalog Flag.featureGates)).insertAll
        ((ofContext ctx catalog).requiredGates role.vmSize kind) := by
  rw [ofFlags_eq_ofValue, get?_resolveFlags_featureGates, ofValue_swept,
    ofValue_extend _ fun _ => plainEntry_of_mem_requiredGates]

/-- **The limit on process identifiers after a pass**: the layered limit, clamped beside the gates
that the pass ends with, from the version on that knows the flag. -/
theorem get?_resolveFlags_podMaxPids :
    ((ofContext ctx catalog).resolveFlags role kind).get? Flag.podMaxPids =
      if atLeast ctx.orchestratorVersion "1.10.0" then
        swept ((role.layeredValue ctx catalog Flag.podMaxPids).map
          (clampValue (ofContext ctx catalog).clampsPidLimit
            (ofFlags ((ofContext ctx catalog).resolveFlags role kind))))
      else none := by
  rw [ofFlags_resolveFlags, resolveFlags_eq_restrict_gated, get?_restrict, get?_ite_clampPidLimit,
    if_pos rfl, get?_gated (by decide), get?_filled (by decide), ← accepts_podMaxPids]
  rfl

/-- **Any other flag after a pass**: its layered value, if the version accepts the flag. -/
theorem get?_resolveFlags {name : String} (hgates : name ≠ Flag.featureGates)
    (hpids : name ≠ Flag.podMaxPids) :
    ((ofContext ctx catalog).resolveFlags role kind).get? name =
      if accepts ctx.orchestratorVersion name then swept (role.layeredValue ctx catalog name)
      else none := by
  rw [resolveFlags_eq_restrict_gated, get?_restrict, get?_ite_clampPidLimit, if_neg hpids,
    get?_gated hgates, get?_filled hgates]
  rfl

end Plan

end NodeFlags
