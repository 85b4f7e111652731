import NodeFlags.Proofs.Composite
import NodeFlags.Proofs.Numeral

/-!
# The limit on process identifiers

The limit of a role is the role's own, else the one for the cluster, else 100
(`Role.baseLimit`). A pass leaves it as it was written, disables it, or drops it with
the flag. An upgrade is to disable a limit that nobody has asked for: a positive one,
if the gates that the pass ends with do not have the gate that makes a kubelet honour
it.

`Plan.get?_resolveRole_podMaxPids` says exactly when the limit is disabled. What
counts as positive is decided by a reading into 64 bits, so a numeral that does not
fit is taken for no number and left alone: exactly such a limit can pass through an
upgrade without its gate (`Plan.positive_limit_gated_iff`).
-/

namespace NodeFlags

open FlagMap GateSet Text

/-! ### The clamp, by its result -/

namespace FlagMap

variable {active : Bool} {gates : GateSet} {value : String}

theorem clampValue_eq_self (h : clampValue active gates value ≠ pidLimitDisabled) :
    clampValue active gates value = value := by
  unfold clampValue at h ⊢
  split
  · rename_i hclamp
    exact absurd (if_pos hclamp) h
  · rfl

/-- A limit comes out disabled if the clamp disables it or if it was. -/
theorem clampValue_eq_pidLimitDisabled_iff :
    clampValue active gates value = pidLimitDisabled ↔
      (active = true ∧ (∃ n, Denotes (trimChars value.toList) n ∧ 0 < n ∧ n ≤ maxInt64) ∧
        supportPodPidsLimit ∉ gates.entries) ∨ value = pidLimitDisabled := by
  rw [← zero_lt_pidLimit_iff, ← contains_iff, clampValue]
  split
  · rename_i h
    exact iff_of_true rfl (.inl h)
  · rename_i h
    exact ⟨.inr, fun hor => hor.resolve_left h⟩

/-- The value that disables a limit is no positive numeral. -/
theorem not_pos_of_denotes_pidLimitDisabled {n : Int}
    (h : Denotes (trimChars pidLimitDisabled.toList) n) : ¬ 0 < n := by
  have hminus : Denotes (trimChars pidLimitDisabled.toList) (-1) :=
    .minus (isDigits_iff.2 (by decide))
  rw [h.unique hminus]
  decide

/-- A limit that does not fit in 64 bits is not read, so the clamp leaves it as it was written. -/
theorem clampValue_eq_self_of_maxInt64_lt {n : Int} (hn : Denotes (trimChars value.toList) n)
    (hlarge : maxInt64 < n) : clampValue active gates value = value := by
  have hpos : 0 < n := Int.lt_trans (by decide) hlarge
  refine clampValue_eq_self fun hdisabled => ?_
  rcases clampValue_eq_pidLimitDisabled_iff.1 hdisabled with ⟨-, ⟨m, hm, -, hsmall⟩, -⟩ | hvalue
  · rw [hn.unique hm] at hlarge
    exact absurd hsmall (Int.not_le.2 hlarge)
  · exact not_pos_of_denotes_pidLimitDisabled (hvalue ▸ hn) hpos

/-- A limit that is positive after the clamp although its gate is missing was not read. -/
theorem maxInt64_lt_of_denotes_clampValue {n : Int}
    (hn : Denotes (trimChars (clampValue true gates value).toList) n) (hpos : 0 < n)
    (hgate : supportPodPidsLimit ∉ gates.entries) :
    Denotes (trimChars value.toList) n ∧ maxInt64 < n := by
  have hkept : clampValue true gates value ≠ pidLimitDisabled :=
    fun hdisabled => not_pos_of_denotes_pidLimitDisabled (hdisabled ▸ hn) hpos
  rw [clampValue_eq_self hkept] at hn
  refine ⟨hn, Int.not_le.1 fun hsmall => hkept ?_⟩
  exact clampValue_eq_pidLimitDisabled_iff.2 (.inl ⟨rfl, ⟨n, hn, hpos, hsmall⟩, hgate⟩)

end FlagMap

/-! ### The limit before the clamp -/

/-- The limit that a pass starts from: the role's own, else the one for the cluster, else the
default. -/
def Role.baseLimit (role : Role) (ctx : Context) : String :=
  ((role.flags.get? Flag.podMaxPids).or (ctx.kubeletConfig.get? Flag.podMaxPids)).getD "100"

theorem Role.layeredValue_podMaxPids (role : Role) (ctx : Context) (catalog : Catalog) :
    role.layeredValue ctx catalog Flag.podMaxPids = some (role.baseLimit ctx) := by
  rw [layeredValue_eq_or (StaticFlags.get?_podMaxPids _ _), Context.sharedValue,
    DefaultFlags.get?_podMaxPids, baseLimit, ← Option.or_assoc, Option.or_some]

namespace Plan

variable (ctx : Context) (catalog : Catalog) (role : Role) (kind : RoleKind)

/-- No pass adds the gate of the limit: it is there if the operator wrote it. -/
theorem supportPodPidsLimit_mem_resolveFlags_iff :
    supportPodPidsLimit ∈ (ofFlags ((ofContext ctx catalog).resolveFlags role kind)).entries ↔
      supportPodPidsLimit ∈ (ofValue ((role.flags.get? Flag.featureGates).or
        (ctx.kubeletConfig.get? Flag.featureGates))).entries := by
  have hadded : supportPodPidsLimit ∉ (ofContext ctx catalog).requiredGates role.vmSize kind :=
    fun h => absurd ((requiredGates_sublist ctx catalog role.vmSize kind).subset h) (by decide)
  rw [ofFlags_resolveFlags_eq_insertAll, role.layeredValue_featureGates, mem_insertAll,
    or_iff_left hadded]

/-- The limit where the version knows the flag. -/
theorem get?_resolveFlags_podMaxPids_of_atLeast
    (hversion : atLeast ctx.orchestratorVersion "1.10.0" = true) :
    ((ofContext ctx catalog).resolveFlags role kind).get? Flag.podMaxPids =
      swept (some (clampValue (ofContext ctx catalog).clampsPidLimit
        (ofFlags ((ofContext ctx catalog).resolveFlags role kind)) (role.baseLimit ctx))) := by
  rw [get?_resolveFlags_podMaxPids, if_pos hversion, Role.layeredValue_podMaxPids, Option.map_some]

/-- **The limit after a pass.** -/
theorem get?_resolveRole_podMaxPids (ctx : Context) (catalog : Catalog) (role : Role)
    (kind : RoleKind) :
    let base :=
      ((role.flags.get? Flag.podMaxPids).or (ctx.kubeletConfig.get? Flag.podMaxPids)).getD "100"
    ∃ flags, ((ofContext ctx catalog).resolveRole role kind).kubeletConfig = some flags ∧
      (atLeast ctx.orchestratorVersion "1.10.0" = false → flags.get? Flag.podMaxPids = none) ∧
      (Version.read? ctx.orchestratorVersion = none → flags.get? Flag.podMaxPids = none) ∧
      (atLeast ctx.orchestratorVersion "1.10.0" = true →
        (flags.get? Flag.podMaxPids = some "-1" ↔
          (ctx.isUpgrade = true ∧ atLeast ctx.orchestratorVersion "1.14.0" = true ∧
            (∃ n, Denotes (trimChars base.toList) n ∧ 0 < n ∧ n ≤ maxInt64) ∧
            "SupportPodPidsLimit=true" ∉ (ofFlags flags).entries) ∨ base = "-1") ∧
        (flags.get? Flag.podMaxPids ≠ some "-1" →
          flags.get? Flag.podMaxPids = if base = "" then none else some base)) := by
  intro base
  have hold : atLeast ctx.orchestratorVersion "1.10.0" = false →
      ((ofContext ctx catalog).resolveFlags role kind).get? Flag.podMaxPids = none := by
    intro hversion
    rw [get?_resolveFlags_podMaxPids, if_neg (Bool.eq_false_iff.1 hversion)]
  refine ⟨(ofContext ctx catalog).resolveFlags role kind, rfl, hold,
    fun hread => hold (atLeast_eq_false_of_read?_eq_none hread _), fun hversion => ?_⟩
  rw [get?_resolveFlags_podMaxPids_of_atLeast _ _ _ _ hversion]
  have hclamps : (ofContext ctx catalog).clampsPidLimit = true ↔
      ctx.isUpgrade = true ∧ atLeast ctx.orchestratorVersion "1.14.0" = true :=
    Bool.and_eq_true_iff
  constructor
  · rw [swept_eq_some_iff, Option.some_inj, and_iff_left (by decide),
      ← and_assoc (a := ctx.isUpgrade = true), ← hclamps]
    exact clampValue_eq_pidLimitDisabled_iff
  · intro hne
    have hself : clampValue (ofContext ctx catalog).clampsPidLimit
        (ofFlags ((ofContext ctx catalog).resolveFlags role kind)) (role.baseLimit ctx) = base :=
      clampValue_eq_self fun h => hne (by rw [h]; rfl)
    rw [hself]
    split
    · rename_i hblank
      rw [hblank]
      exact swept_removalMark
    · rename_i hblank
      exact swept_some hblank

/-- A signed limit with blanks around it: at a version that does not know the flag, under a text
that is no version, and in an upgrade. -/
theorem get?_resolveRole_podMaxPids_signed_limit :
    let pool : Role :=
      { name := "pool", kubeletConfig := some (.ofList [(Flag.podMaxPids, " +50 ")]) }
    let limitIn (ctx : Context) (limit : Option String) : Prop :=
      ∃ flags, ((ofContext ctx {}).resolveRole pool .workerPool).kubeletConfig = some flags ∧
        flags.get? Flag.podMaxPids = limit
    limitIn { orchestratorVersion := "1.9.11" } none ∧
      limitIn { orchestratorVersion := "latest" } none ∧
      limitIn { orchestratorVersion := "1.14.0", isUpgrade := true } (some "-1") := by
  intro pool limitIn
  refine ⟨?_, ?_, ?_⟩
  · obtain ⟨flags, hflags, hold, -⟩ :=
      get?_resolveRole_podMaxPids { orchestratorVersion := "1.9.11" } {} pool .workerPool
    exact ⟨flags, hflags, hold (by decide)⟩
  · obtain ⟨flags, hflags, -, hread, -⟩ :=
      get?_resolveRole_podMaxPids { orchestratorVersion := "latest" } {} pool .workerPool
    exact ⟨flags, hflags, hread (by decide)⟩
  · let ctx : Context := { orchestratorVersion := "1.14.0", isUpgrade := true }
    obtain ⟨flags, hflags, -, -, hlimit⟩ := get?_resolveRole_podMaxPids ctx {} pool .workerPool
    have hdenotes : Denotes (trimChars " +50 ".toList) 50 := .plus (isDigits_iff.2 (by decide))
    have hgates : "SupportPodPidsLimit=true" ∉ (ofFlags flags).entries := by
      obtain rfl : (ofContext ctx {}).resolveFlags pool .workerPool = flags :=
        Option.some.inj hflags
      exact mt (supportPodPidsLimit_mem_resolveFlags_iff ctx {} pool .workerPool).1 (by decide)
    exact ⟨flags, hflags, (hlimit (by decide)).1.2
      (.inl ⟨rfl, by decide, ⟨50, hdenotes, by decide, by decide⟩, hgates⟩)⟩

/-! ### Limits that an upgrade passes on -/

/-- **Which positive limits pass through an upgrade without their gate**: none, unless the limit
does not fit in 64 bits. -/
theorem positive_limit_gated_iff (hupgrade : ctx.isUpgrade = true)
    (hversion : atLeast ctx.orchestratorVersion "1.14.0" = true) :
    let base :=
      ((role.flags.get? Flag.podMaxPids).or (ctx.kubeletConfig.get? Flag.podMaxPids)).getD "100"
    let flags := ((ofContext ctx catalog).resolveRole role kind).flags
    (∀ value n, flags.get? Flag.podMaxPids = some value →
        Denotes (trimChars value.toList) n → 0 < n →
        "SupportPodPidsLimit=true" ∈ (ofFlags flags).entries) ↔
      "SupportPodPidsLimit=true" ∈ (ofFlags flags).entries ∨
        ∀ n, Denotes (trimChars base.toList) n → n ≤ maxInt64 := by
  intro base flags
  have hlimit : flags.get? Flag.podMaxPids =
      swept (some (clampValue true (ofFlags flags) base)) := by
    have hclamps : (ofContext ctx catalog).clampsPidLimit = true :=
      Bool.and_eq_true_iff.2 ⟨hupgrade, hversion⟩
    have hflags := get?_resolveFlags_podMaxPids_of_atLeast ctx catalog role kind
      (atLeast_trans hversion (by decide))
    rw [hclamps] at hflags
    exact hflags
  constructor
  · intro hgated
    refine or_iff_not_imp_left.2 fun hgate n hn => Int.not_lt.1 fun hlarge => hgate ?_
    have hblank : base ≠ removalMark := by
      intro h
      rw [h] at hn
      exact hn.ne_nil (by decide)
    rw [clampValue_eq_self_of_maxInt64_lt hn hlarge, swept_some hblank] at hlimit
    exact hgated base n hlimit hn (Int.lt_trans (by decide) hlarge)
  · rintro (hgate | hsmall) value n hvalue hn hpos
    · exact hgate
    · by_contra hgate
      obtain rfl : clampValue true (ofFlags flags) base = value := by
        rw [hlimit, swept_eq_some_iff, Option.some_inj] at hvalue
        exact hvalue.1
      obtain ⟨hbase, hlarge⟩ := maxInt64_lt_of_denotes_clampValue hn hpos hgate
      exact absurd (hsmall n hbase) (Int.not_le.2 hlarge)

/-- The default limit does not pass through an upgrade. -/
theorem positive_limit_gated_default :
    let ctx : Context := { orchestratorVersion := "1.14.0", isUpgrade := true }
    let flags := ((ofContext ctx {}).resolveRole { name := "pool" } .workerPool).flags
    ∀ value n, flags.get? Flag.podMaxPids = some value →
      Denotes (trimChars value.toList) n → 0 < n →
      "SupportPodPidsLimit=true" ∈ (ofFlags flags).entries := by
  intro ctx flags
  refine (positive_limit_gated_iff ctx {} { name := "pool" } .workerPool rfl (by decide)).2
    (.inr fun n hn => ?_)
  have hundred : Denotes (trimChars "100".toList) 100 := .unsigned (isDigits_iff.2 (by decide))
  rw [hn.unique hundred]
  decide

/-- A limit just beyond 64 bits passes through an upgrade without its gate. -/
theorem positive_limit_not_gated :
    let ctx : Context := { orchestratorVersion := "1.14.0", isUpgrade := true }
    let pool : Role :=
      { name := "pool"
        kubeletConfig := some (.ofList [(Flag.podMaxPids, "9223372036854775808")]) }
    let flags := ((ofContext ctx {}).resolveRole pool .workerPool).flags
    ctx.isUpgrade = true ∧ atLeast ctx.orchestratorVersion "1.14.0" = true ∧
    ¬ ∀ value n, flags.get? Flag.podMaxPids = some value →
      Denotes (trimChars value.toList) n → 0 < n →
      "SupportPodPidsLimit=true" ∈ (ofFlags flags).entries := by
  intro ctx pool flags
  refine ⟨rfl, by decide, fun hgated => ?_⟩
  have hvalue : flags.get? Flag.podMaxPids = some "9223372036854775808" := by
    refine (get?_resolveFlags_podMaxPids_of_atLeast ctx {} pool .workerPool (by decide)).trans ?_
    decide +kernel
  have hdenotes : Denotes (trimChars "9223372036854775808".toList) 9223372036854775808 :=
    .unsigned (isDigits_iff.2 (by decide))
  have hgates : "SupportPodPidsLimit=true" ∉ (ofFlags flags).entries :=
    mt (supportPodPidsLimit_mem_resolveFlags_iff ctx {} pool .workerPool).1 (by decide)
  exact hgates (hgated _ _ hvalue hdenotes (by decide))

end Plan

end NodeFlags
