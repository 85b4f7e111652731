import NodeFlags.Proofs.Pass

/-!
# Passes over the result of a pass

The same pipeline runs again on every upgrade, over the flags that an earlier pass
left behind. What a first pass keeps, a second pass finds in the role's own map and
keeps too. What the first pass takes away, the second may bring back: a flag that the
role itself holds with the empty value hides the layers below only once. The sweep
removes it, and then nothing hides them any more.

`Role.Refilled` names such a flag, and there is no other difference: of two passes
that differ at most in being an upgrade, the result is that of a single pass, an
upgrade if one of the two is, exactly if no flag is refilled
(`passWith_passWith_iff`). For a cluster that is resolved a second time this says
when nothing changes, and for a role without empty values that two passes always are
one.
-/

namespace NodeFlags

open FlagMap GateSet

/-- A flag that one pass takes away from a role and the next brings back. -/
structure Role.Refilled (role : Role) (ctx : Context) (catalog : Catalog) (kind : RoleKind)
    (name : String) : Prop where
  /-- The role holds the flag with the empty value. -/
  blank : role.flags.get? name = some ""
  /-- No static flag stands above it. -/
  not_static : (StaticFlags.ofContext ctx role.osFamily).get? name = none
  /-- A shared layer below it has a value to give. -/
  shared : ∃ value, ctx.sharedValue catalog name = some value ∧ value ≠ ""
  /-- The version accepts the flag. -/
  accepted : accepts ctx.orchestratorVersion name = true
  /-- If it is the flag of the gates, the pass has none to add. -/
  no_gates : name = Flag.featureGates →
    (Plan.ofContext ctx catalog).requiredGates role.vmSize kind = []

/-- The role after a pass that is an upgrade or is none. -/
def passWith (ctx : Context) (catalog : Catalog) (kind : RoleKind) (upgrade : Bool) (role : Role) :
    Role :=
  (Plan.ofContext { ctx with isUpgrade := upgrade } catalog).resolveRole role kind

/-! ### A value that was taken away -/

/-- A value that is swept, looked for again in the layer below and swept again. It comes out as
from one sweep, unless the upper layer was empty and the lower one has a value to give. -/
theorem swept_refill_iff (own shared : Option String) {first second : String → String}
    (hfirst : ∀ v, first v = removalMark ↔ v = removalMark)
    (hsecond : ∀ v, second v = removalMark ↔ v = removalMark) :
    swept (((swept ((own.or shared).map first)).or shared).map second) =
        swept ((own.or shared).map (second ∘ first)) ↔
      ¬ (own = some removalMark ∧ ∃ value, shared = some value ∧ value ≠ removalMark) := by
  cases own with
  | none =>
    -- the lower layer speaks both times
    refine iff_of_true ?_ (by simp)
    rw [Option.none_or]
    cases shared with
    | none => rfl
    | some v =>
      by_cases hv : v = removalMark
      · rw [Option.map_some, (hfirst v).2 hv, swept_removalMark, Option.none_or, Option.map_some,
          (hsecond v).2 hv, Option.map_some, Function.comp_apply, (hfirst v).2 hv,
          (hsecond removalMark).2 rfl]
      · rw [Option.map_some, swept_some (mt (hfirst v).1 hv)]
        rfl
  | some v =>
    rw [Option.some_or, Option.map_some, Option.map_some, Function.comp_apply]
    by_cases hv : v = removalMark
    · rw [(hfirst v).2 hv, swept_removalMark, Option.none_or, (hsecond removalMark).2 rfl,
        swept_removalMark, hv]
      cases shared with
      | none => simp
      | some w =>
        rw [Option.map_some]
        by_cases hw : w = removalMark
        · simp [hw, (hsecond removalMark).2 rfl]
        · simp [hw, swept_some (mt (hsecond w).1 hw)]
    · rw [swept_some (mt (hfirst v).1 hv), Option.some_or, Option.map_some]
      exact iff_of_true rfl fun h => hv (Option.some.inj h.1)

/-- The case in which neither pass changes the value otherwise. -/
theorem swept_refill_id_iff (own shared : Option String) :
    swept ((swept (own.or shared)).or shared) = swept (own.or shared) ↔
      ¬ (own = some removalMark ∧ ∃ value, shared = some value ∧ value ≠ removalMark) := by
  have hid : ∀ v : String, id v = removalMark ↔ v = removalMark := fun _ => Iff.rfl
  simpa using swept_refill_iff own shared hid hid

/-! ### One pass, whether an upgrade or not -/

section Passes

variable (ctx : Context) (catalog : Catalog) (kind : RoleKind) (role : Role)

theorem get?_passWith {name : String} (hgates : name ≠ Flag.featureGates)
    (hpids : name ≠ Flag.podMaxPids) (upgrade : Bool) :
    (passWith ctx catalog kind upgrade role).flags.get? name =
      if accepts ctx.orchestratorVersion name then swept (role.layeredValue ctx catalog name)
      else none :=
  Plan.get?_resolveFlags { ctx with isUpgrade := upgrade } catalog role kind hgates hpids

theorem get?_passWith_featureGates (upgrade : Bool) :
    (passWith ctx catalog kind upgrade role).flags.get? Flag.featureGates =
      swept (extend (role.layeredValue ctx catalog Flag.featureGates)
        ((Plan.ofContext ctx catalog).requiredGates role.vmSize kind)) :=
  Plan.get?_resolveFlags_featureGates { ctx with isUpgrade := upgrade } catalog role kind

theorem get?_passWith_podMaxPids (upgrade : Bool) :
    (passWith ctx catalog kind upgrade role).flags.get? Flag.podMaxPids =
      if atLeast ctx.orchestratorVersion "1.10.0" then
        swept ((role.layeredValue ctx catalog Flag.podMaxPids).map
          (clampValue (upgrade && atLeast ctx.orchestratorVersion pidClampFrom)
            (ofFlags (passWith ctx catalog kind upgrade role).flags)))
      else none :=
  Plan.get?_resolveFlags_podMaxPids { ctx with isUpgrade := upgrade } catalog role kind

/-- Whether a pass is an upgrade does not show in the gates. -/
theorem ofFlags_passWith (upgrade other : Bool) :
    ofFlags (passWith ctx catalog kind upgrade role).flags =
      ofFlags (passWith ctx catalog kind other role).flags := by
  rw [ofFlags_eq_ofValue, get?_passWith_featureGates, ← get?_passWith_featureGates _ _ _ _ other]
  rfl

/-- A second pass finds the result of the first where the role's own map was. -/
theorem layeredValue_passWith (upgrade : Bool) (name : String) :
    (passWith ctx catalog kind upgrade role).layeredValue ctx catalog name =
      ((StaticFlags.ofContext ctx role.osFamily).get? name).or
        (((passWith ctx catalog kind upgrade role).flags.get? name).or
          (ctx.sharedValue catalog name)) := rfl

/-! ### Two passes, flag by flag -/

variable (first second : Bool)

/-- Where nothing else stands in the way, a flag is refilled if its value is empty and the shared
layers have one to give. -/
theorem Role.refilled_iff {ctx : Context} {catalog : Catalog} {kind : RoleKind} {role : Role}
    {name : String} (hstatic : (StaticFlags.ofContext ctx role.osFamily).get? name = none)
    (haccepts : accepts ctx.orchestratorVersion name = true)
    (hgates : name = Flag.featureGates →
      (Plan.ofContext ctx catalog).requiredGates role.vmSize kind = []) :
    role.Refilled ctx catalog kind name ↔ role.flags.get? name = some removalMark ∧
      ∃ value, ctx.sharedValue catalog name = some value ∧ value ≠ removalMark :=
  ⟨fun h => ⟨h.blank, h.shared⟩, fun h => ⟨h.1, hstatic, h.2, haccepts, hgates⟩⟩

theorem get?_passWith_passWith_iff {name : String} (hgates : name ≠ Flag.featureGates)
    (hpids : name ≠ Flag.podMaxPids) :
    (passWith ctx catalog kind second (passWith ctx catalog kind first role)).flags.get? name =
        (passWith ctx catalog kind (first || second) role).flags.get? name ↔
      ¬ role.Refilled ctx catalog kind name := by
  rw [get?_passWith _ _ _ _ hgates hpids, get?_passWith _ _ _ _ hgates hpids,
    layeredValue_passWith, get?_passWith _ _ _ _ hgates hpids]
  by_cases haccepts : accepts ctx.orchestratorVersion name = true
  · rw [if_pos haccepts, if_pos haccepts, Role.layeredValue]
    cases hstatic : (StaticFlags.ofContext ctx role.osFamily).get? name with
    | some value =>
      exact iff_of_true rfl fun h => Option.some_ne_none value (hstatic ▸ h.not_static)
    | none =>
      rw [Role.refilled_iff hstatic haccepts fun h => absurd h hgates, Option.none_or,
        Option.none_or]
      exact swept_refill_id_iff _ _
  · rw [if_neg haccepts, if_neg haccepts]
    exact iff_of_true rfl fun h => haccepts h.accepted

/-- Where a pass adds gates, the next one finds them all; where it adds none, the flag of the gates
is a flag like any other. -/
theorem get?_passWith_passWith_featureGates_iff :
    (passWith ctx catalog kind second (passWith ctx catalog kind first role)).flags.get?
          Flag.featureGates =
        (passWith ctx catalog kind (first || second) role).flags.get? Flag.featureGates ↔
      ¬ role.Refilled ctx catalog kind Flag.featureGates := by
  have hstatic := StaticFlags.get?_featureGates ctx role.osFamily
  have hplain : ∀ e ∈ (Plan.ofContext ctx catalog).requiredGates role.vmSize kind, PlainEntry e :=
    fun _ => Plan.plainEntry_of_mem_requiredGates
  rw [get?_passWith_featureGates, get?_passWith_featureGates, layeredValue_passWith,
    get?_passWith_featureGates, hstatic, Option.none_or]
  change swept (extend _ ((Plan.ofContext ctx catalog).requiredGates role.vmSize kind)) = _ ↔ _
  by_cases hnone : (Plan.ofContext ctx catalog).requiredGates role.vmSize kind = []
  · rw [Role.refilled_iff hstatic (accepts_featureGates _) fun _ => hnone, hnone,
      Role.layeredValue_eq_or hstatic]
    exact swept_refill_id_iff _ _
  · refine iff_of_true ?_ fun h => hnone (h.no_gates rfl)
    have hkept : swept (extend (role.layeredValue ctx catalog Flag.featureGates)
        ((Plan.ofContext ctx catalog).requiredGates role.vmSize kind)) =
        extend (role.layeredValue ctx catalog Flag.featureGates)
          ((Plan.ofContext ctx catalog).requiredGates role.vmSize kind) :=
      swept_eq_self (extend_ne_some_empty _ hplain hnone)
    obtain ⟨text, htext⟩ := Option.isSome_iff_exists.1 (isSome_extend
      (role.layeredValue ctx catalog Flag.featureGates) hnone)
    rw [hkept, htext, Option.some_or, ← htext, extend_extend _ hplain, hkept]

/-- The limit, if the two passes end with the same gates: a limit that was clamped stays clamped, and
one that was not reaches the next clamp as it was. -/
theorem get?_passWith_passWith_podMaxPids_iff
    (hsame : ofFlags (passWith ctx catalog kind second
        (passWith ctx catalog kind first role)).flags =
      ofFlags (passWith ctx catalog kind (first || second) role).flags) :
    (passWith ctx catalog kind second (passWith ctx catalog kind first role)).flags.get?
          Flag.podMaxPids =
        (passWith ctx catalog kind (first || second) role).flags.get? Flag.podMaxPids ↔
      ¬ role.Refilled ctx catalog kind Flag.podMaxPids := by
  have hstatic := StaticFlags.get?_podMaxPids ctx role.osFamily
  have hne : Flag.podMaxPids ≠ Flag.featureGates := by decide
  rw [get?_passWith_podMaxPids, get?_passWith_podMaxPids, layeredValue_passWith,
    get?_passWith_podMaxPids, hstatic, Option.none_or, hsame,
    ofFlags_passWith ctx catalog kind role first (first || second), Role.layeredValue_eq_or hstatic]
  by_cases hversion : atLeast ctx.orchestratorVersion "1.10.0" = true
  · have haccepts : accepts ctx.orchestratorVersion Flag.podMaxPids = true :=
      (accepts_podMaxPids _).trans hversion
    rw [if_pos hversion, if_pos hversion, if_pos hversion,
      Role.refilled_iff hstatic haccepts fun h => absurd h hne,
      ← swept_refill_iff _ _ (fun _ => clampValue_eq_removalMark_iff)
        fun _ => clampValue_eq_removalMark_iff]
    have hclamp : ∀ gates : GateSet,
        clampValue (second && atLeast ctx.orchestratorVersion pidClampFrom) gates ∘
            clampValue (first && atLeast ctx.orchestratorVersion pidClampFrom) gates =
          clampValue ((first || second) && atLeast ctx.orchestratorVersion pidClampFrom) gates :=
      fun gates => funext fun value => by
        rw [Function.comp_apply, clampValue_clampValue, Bool.and_or_distrib_right]
    rw [hclamp]
  · rw [if_neg hversion, if_neg hversion]
    exact iff_of_true rfl fun h => hversion ((accepts_podMaxPids _).symm.trans h.accepted)

/-- The three equivalences as one, for passes that end with the same gates. -/
theorem get?_passWith_passWith_iff_of_gates
    (hsame : ofFlags (passWith ctx catalog kind second
        (passWith ctx catalog kind first role)).flags =
      ofFlags (passWith ctx catalog kind (first || second) role).flags) (name : String) :
    (passWith ctx catalog kind second (passWith ctx catalog kind first role)).flags.get? name =
        (passWith ctx catalog kind (first || second) role).flags.get? name ↔
      ¬ role.Refilled ctx catalog kind name := by
  by_cases hgates : name = Flag.featureGates
  · subst hgates
    exact get?_passWith_passWith_featureGates_iff ctx catalog kind role first second
  by_cases hpids : name = Flag.podMaxPids
  · subst hpids
    exact get?_passWith_passWith_podMaxPids_iff ctx catalog kind role first second hsame
  exact get?_passWith_passWith_iff ctx catalog kind role first second hgates hpids

/-! ### Two passes over a role -/

/-- Passes change nothing of a role but its flags, so these decide. -/
theorem passWith_passWith_eq_iff :
    passWith ctx catalog kind second (passWith ctx catalog kind first role) =
        passWith ctx catalog kind (first || second) role ↔
      ∀ name,
        (passWith ctx catalog kind second (passWith ctx catalog kind first role)).flags.get? name =
          (passWith ctx catalog kind (first || second) role).flags.get? name :=
  ⟨fun h name => by rw [h],
    fun h => congrArg (fun flags => { role with kubeletConfig := some flags }) (Dict.ext_get? h)⟩

/-- **When two passes are one**: of two passes that differ at most in being an upgrade, the result
is that of a single pass, an upgrade if one of the two is, unless a flag is refilled. -/
theorem passWith_passWith_iff :
    passWith ctx catalog kind second (passWith ctx catalog kind first role) =
        passWith ctx catalog kind (first || second) role ↔
      ∀ name, ¬ role.Refilled ctx catalog kind name := by
  rw [passWith_passWith_eq_iff]
  constructor
  · intro h name
    exact (get?_passWith_passWith_iff_of_gates ctx catalog kind role first second
      (congrArg ofFlags (Dict.ext_get? h)) name).1 (h name)
  · intro h name
    -- the gates come first: the limit is clamped beside them
    have hgates :=
      (get?_passWith_passWith_featureGates_iff ctx catalog kind role first second).2 (h _)
    exact (get?_passWith_passWith_iff_of_gates ctx catalog kind role first second
      (congrArg ofValue hgates) name).2 (h name)

/-- A pass repeated is the same pass, unless a flag is refilled. -/
theorem passWith_idempotent_iff (upgrade : Bool) :
    passWith ctx catalog kind upgrade (passWith ctx catalog kind upgrade role) =
        passWith ctx catalog kind upgrade role ↔
      ∀ name, ¬ role.Refilled ctx catalog kind name := by
  rw [← passWith_passWith_iff ctx catalog kind role upgrade upgrade, Bool.or_self]

/-- **Absorption**: for a role without empty values, two passes are one. -/
theorem passWith_absorbs (hfull : ∀ name, role.flags.get? name ≠ some "") :
    passWith ctx catalog kind second (passWith ctx catalog kind first role) =
      passWith ctx catalog kind (first || second) role :=
  (passWith_passWith_iff ctx catalog kind role first second).2 fun name h => hfull name h.blank

end Passes

/-- A limit of the operator's own, through a fresh resolution and then an upgrade. -/
theorem passWith_absorbs_own_limit :
    passWith { orchestratorVersion := "1.15.0" } {} .workerPool true
        (passWith { orchestratorVersion := "1.15.0" } {} .workerPool false
          { name := "pool", kubeletConfig := some (.ofList [(Flag.podMaxPids, "50")]) }) =
      passWith { orchestratorVersion := "1.15.0" } {} .workerPool true
        { name := "pool", kubeletConfig := some (.ofList [(Flag.podMaxPids, "50")]) } := by
  refine passWith_absorbs _ _ _ _ false true fun name => ?_
  show (Dict.ofList [(Flag.podMaxPids, "50")]).get? name ≠ some ""
  rw [Dict.get?_ofList, List.reverse_singleton, Dict.lookup_cons_eq_ite]
  split
  · decide
  · exact nofun

/-! ### Two passes over a cluster -/

namespace Definition

theorem resolveWith_eq_passWith (d : Definition) (catalog : Catalog) :
    d.resolveWith catalog =
      { d with
        controlPlane :=
          d.controlPlane.map (passWith d.context catalog .controlPlane d.context.isUpgrade)
        workerPools :=
          d.workerPools.map (passWith d.context catalog .workerPool d.context.isUpgrade) } := rfl

/-- **When a second resolution changes nothing**: exactly if no role has a flag that is refilled. -/
theorem resolveWith_resolveWith_iff (d : Definition) (catalog : Catalog) :
    (d.resolveWith catalog).resolveWith catalog = d.resolveWith catalog ↔
      (∀ role, d.controlPlane = some role →
        ∀ name, ¬ role.Refilled d.context catalog .controlPlane name) ∧
      ∀ role ∈ d.workerPools, ∀ name, ¬ role.Refilled d.context catalog .workerPool name := by
  have hpools : (d.workerPools.map
        (passWith d.context catalog .workerPool d.context.isUpgrade)).map
          (passWith d.context catalog .workerPool d.context.isUpgrade) =
        d.workerPools.map (passWith d.context catalog .workerPool d.context.isUpgrade) ↔
      ∀ role ∈ d.workerPools, ∀ name, ¬ role.Refilled d.context catalog .workerPool name := by
    rw [List.map_map, List.map_inj_left]
    exact forall₂_congr fun role _ => passWith_idempotent_iff _ _ _ role _
  have hplane : (d.controlPlane.map
        (passWith d.context catalog .controlPlane d.context.isUpgrade)).map
          (passWith d.context catalog .controlPlane d.context.isUpgrade) =
        d.controlPlane.map (passWith d.context catalog .controlPlane d.context.isUpgrade) ↔
      ∀ role, d.controlPlane = some role →
        ∀ name, ¬ role.Refilled d.context catalog .controlPlane name := by
    cases d.controlPlane with
    | none => simp
    | some role =>
      rw [Option.map_some, Option.map_some, Option.some_inj, passWith_idempotent_iff]
      exact ⟨fun h r hr => Option.some.inj hr ▸ h, fun h => h role rfl⟩
  rw [← hplane, ← hpools, resolveWith_eq_passWith, resolveWith_eq_passWith]
  exact ⟨fun h => ⟨congrArg controlPlane h, congrArg workerPools h⟩,
    fun h => by simp only [h.1, h.2]⟩

/-- A pool that empties a flag of the cluster's map loses it in the first resolution and has it back
after the second. -/
theorem resolveWith_not_idempotent :
    let d : Definition :=
      { context :=
          { orchestratorVersion := "1.12.8", kubeletConfig := .ofList [(Flag.eventQps, "5")] }
        workerPools := [{ name := "pool", kubeletConfig := some (.ofList [(Flag.eventQps, "")]) }] }
    (d.resolveWith {}).resolveWith {} ≠ d.resolveWith {} := by
  intro d h
  let pool : Role := { name := "pool", kubeletConfig := some (.ofList [(Flag.eventQps, "")]) }
  have hrefilled : pool.Refilled d.context {} .workerPool Flag.eventQps :=
    { blank := by decide
      not_static := StaticFlags.get?_eq_none (by decide) d.context pool.osFamily
      shared := ⟨"5", rfl, by decide⟩
      accepted := accepts_iff.2 ⟨fun h => absurd h (by decide), fun h => absurd h (by decide),
        fun h => absurd h (by decide)⟩
      no_gates := fun h => absurd h (by decide) }
  have hpool : passWith d.context {} .workerPool false
      (passWith d.context {} .workerPool false pool) =
        passWith d.context {} .workerPool false pool :=
    List.head_eq_of_cons_eq (congrArg workerPools h)
  exact (passWith_idempotent_iff d.context {} .workerPool pool false).1 hpool _ hrefilled

end Definition

end NodeFlags
