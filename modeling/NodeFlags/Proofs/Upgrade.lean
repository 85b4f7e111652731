import NodeFlags.Proofs.Pass
import NodeFlags.Proofs.VersionOrder

/-!
# A flag map at an earlier and at a later version

What a version decides about a flag map, it decides by thresholds: a gate is added from
a version on, a flag is accepted from one on or up to one. Thresholds that the earlier
version meets are met by the later one (`atLeast_trans`), and so every decision changes at
most once on the way up.

## What is proved

* `FlagMap.prefix_defaultGatesAt` — the default gates of the earlier version are the first
  of those of the later one, because the table of gates is sorted by version.
* `FlagMap.get?_restrict_eq_none_of_later`, `FlagMap.get?_restrict_eq_none_of_earlier` — a flag that
  nothing introduces stays away on the way up, one that nothing retires on the way down.
* `FlagMap.gating_monotone` — what follows for the gates and for the three flags that have
  a window.
-/

namespace NodeFlags

open GateSet

namespace GateSet

/-- Appending more entries leaves those that come first as they are. -/
theorem insertAll_prefix_insertAll (gates : GateSet) {first second : List String}
    (h : first <+: second) :
    (gates.insertAll first).entries <+: (gates.insertAll second).entries := by
  obtain ⟨more, rfl⟩ := h
  rw [insertAll_append]
  exact prefix_insertAll _ _

end GateSet

namespace FlagMap

variable {v w : String}

/-! ### Gates -/

/-- In a sorted table the rows that meet a condition are the first rows. -/
theorem filter_prefix_filter {α : Type} {p q : α → Bool} {table : List α}
    (hsorted : table.Pairwise fun x y => p y = true → p x = true)
    (hpq : ∀ x ∈ table, p x = true → q x = true) : table.filter p <+: table.filter q := by
  induction table with
  | nil => exact List.prefix_refl _
  | cons x rest ih =>
    obtain ⟨hx, hrest⟩ := List.pairwise_cons.1 hsorted
    obtain ⟨hpqx, hpq⟩ := List.forall_mem_cons.1 hpq
    by_cases hp : p x = true
    · rw [List.filter_cons_of_pos hp, List.filter_cons_of_pos (hpqx hp)]
      exact (List.prefix_cons_inj x).2 (ih hrest hpq)
    · -- what comes after the first row left out is left out as well
      have hnone : rest.filter p = [] :=
        List.filter_eq_nil_iff.2 fun y hy hpy => hp (hx y hy hpy)
      rw [List.filter_cons_of_neg hp, hnone]
      exact List.nil_prefix

theorem defaultGates_sorted : defaultGates.Pairwise fun x y => atLeast y.1 x.1 = true := by
  decide +kernel

/-- The default gates of a version are the first of those of a later one. -/
theorem prefix_defaultGatesAt (h : atLeast w v = true) : defaultGatesAt v <+: defaultGatesAt w := by
  have hsorted : defaultGates.Pairwise fun x y => atLeast v y.1 = true → atLeast v x.1 = true :=
    defaultGates_sorted.imp fun hxy hy => atLeast_trans hy hxy
  have hlater : ∀ gate ∈ defaultGates, atLeast v gate.1 = true → atLeast w gate.1 = true :=
    fun _ _ hgate => atLeast_trans h hgate
  exact (filter_prefix_filter hsorted hlater).map _

/-- The gates of a map with the defaults of a version are the first of those with the defaults of a
later one. -/
theorem prefix_ofFlags_addDefaultGates (h : atLeast w v = true) (flags : FlagMap) :
    (ofFlags (flags.addDefaultGates v)).entries <+:
      (ofFlags (flags.addDefaultGates w)).entries := by
  have hgates : ∀ version, ofFlags (flags.addDefaultGates version) =
      (ofFlags flags).insertAll (defaultGatesAt version) := by
    intro version
    rw [addDefaultGates_eq_addGates, ofFlags_addGates _ fun _ => plainEntry_of_mem_defaultGatesAt]
  rw [hgates, hgates]
  exact insertAll_prefix_insertAll _ (prefix_defaultGatesAt h)

/-! ### Windows -/

theorem accepts_iff_forall {version name : String} :
    accepts version name = true ↔
      (∀ row ∈ introducedIn, row.1 = name → atLeast version row.2 = true) ∧
        ∀ row ∈ retiredIn, row.1 = name → atLeast version row.2 = false := by
  simp [accepts]

/-- A flag that nothing retires is accepted by later versions. -/
theorem accepts_of_later (h : atLeast w v = true) {name : String}
    (hname : name ∉ retiredIn.map (·.1)) (hv : accepts v name = true) : accepts w name = true := by
  refine accepts_iff_forall.2 ⟨fun row hrow hrowName => ?_, fun row hrow hrowName => ?_⟩
  · exact atLeast_trans h ((accepts_iff_forall.1 hv).1 row hrow hrowName)
  · exact absurd (List.mem_map.2 ⟨row, hrow, hrowName⟩) hname

/-- A flag that nothing introduces is accepted by earlier versions. -/
theorem accepts_of_earlier (h : atLeast w v = true) {name : String}
    (hname : name ∉ introducedIn.map (·.1)) (hw : accepts w name = true) :
    accepts v name = true := by
  refine accepts_iff_forall.2 ⟨fun row hrow hrowName => ?_, fun row hrow hrowName => ?_⟩
  · exact absurd (List.mem_map.2 ⟨row, hrow, hrowName⟩) hname
  · have hretired := (accepts_iff_forall.1 hw).2 row hrow hrowName
    refine Bool.eq_false_iff.2 fun hv => ?_
    rw [atLeast_trans h hv] at hretired
    exact Bool.noConfusion hretired

/-- What is missing after the last step was not accepted, or there was nothing to keep. -/
theorem get?_restrict_eq_none_iff {flags : FlagMap} {version name : String} :
    (flags.restrict version).get? name = none ↔
      (accepts version name = true → swept (flags.get? name) = none) := by
  rw [get?_restrict]
  cases accepts version name <;> simp

theorem get?_restrict_eq_none_of_later (h : atLeast w v = true) {name : String}
    (hname : name ∉ introducedIn.map (·.1)) {flags : FlagMap}
    (hv : (flags.restrict v).get? name = none) : (flags.restrict w).get? name = none :=
  get?_restrict_eq_none_iff.2 fun hw =>
    get?_restrict_eq_none_iff.1 hv (accepts_of_earlier h hname hw)

theorem get?_restrict_eq_none_of_earlier (h : atLeast w v = true) {name : String}
    (hname : name ∉ retiredIn.map (·.1)) {flags : FlagMap}
    (hw : (flags.restrict w).get? name = none) : (flags.restrict v).get? name = none :=
  get?_restrict_eq_none_iff.2 fun hv =>
    get?_restrict_eq_none_iff.1 hw (accepts_of_later h hname hv)

/-! ### Both together -/

/-- **On the way up gates are only appended, retired flags stay away and no flag is lost that a
version introduced.** -/
theorem gating_monotone (h : atLeast w v = true) (flags : FlagMap) :
    (ofFlags (flags.addDefaultGates v)).entries <+: (ofFlags (flags.addDefaultGates w)).entries ∧
    ((flags.restrict v).get? Flag.cadvisorPort = none →
      (flags.restrict w).get? Flag.cadvisorPort = none) ∧
    ((flags.restrict v).get? Flag.allowPrivileged = none →
      (flags.restrict w).get? Flag.allowPrivileged = none) ∧
    ((flags.restrict w).get? Flag.podMaxPids = none →
      (flags.restrict v).get? Flag.podMaxPids = none) :=
  ⟨prefix_ofFlags_addDefaultGates h flags, get?_restrict_eq_none_of_later h (by decide),
    get?_restrict_eq_none_of_later h (by decide), get?_restrict_eq_none_of_earlier h (by decide)⟩

/-- From a pre-release just below a threshold to one that is a threshold itself. -/
theorem gating_monotone_prereleases :
    let flags : FlagMap := .ofList
      [(Flag.cadvisorPort, removalMark), (Flag.allowPrivileged, "true"),
      (Flag.featureGates, "Other=1, ,PodPriority=true"), (Flag.podMaxPids, removalMark)]
    atLeast "1.15.0-beta.1" "1.11.9-alpha.1+b" = true ∧
    (ofFlags (flags.addDefaultGates "1.11.9-alpha.1+b")).entries <+:
      (ofFlags (flags.addDefaultGates "1.15.0-beta.1")).entries ∧
    (flags.restrict "1.15.0-beta.1").get? Flag.cadvisorPort = none ∧
    (flags.restrict "1.11.9-alpha.1+b").get? Flag.podMaxPids = none := by
  intro flags
  have hlater : atLeast "1.15.0-beta.1" "1.11.9-alpha.1+b" = true := by decide +kernel
  obtain ⟨hgates, hport, -, hpids⟩ := gating_monotone hlater flags
  exact ⟨hlater, hgates, hport (by decide +kernel), hpids (by decide +kernel)⟩

end FlagMap

end NodeFlags
