import NodeFlags.Proofs.Pass
import NodeFlags.Proofs.VersionOrder

/-!
# Which layer a flag takes its value from

The flags other than the gates and the limit on process identifiers are decided by
the layers alone. A pass keeps such a flag if its layered value
(`Role.layeredValue`) is not empty and the version has not retired the flag
(`FlagMap.Retired`), and then it keeps that value.

The static flags are not above the version: a retired flag goes also if the platform
dictates it.
-/

namespace NodeFlags

namespace FlagMap

/-- A version that no longer knows a flag. -/
def Retired (version name : String) : Prop :=
  (name = Flag.cadvisorPort ∧ atLeast version "1.12.0" = true) ∨
    (name = Flag.allowPrivileged ∧ atLeast version "1.15.0-beta.1" = true)

/-- What is no version retires nothing. -/
theorem not_retired_of_read?_eq_none {version : String} (h : Version.read? version = none)
    (name : String) : ¬ Retired version name := by
  rintro (⟨-, hold⟩ | ⟨-, hold⟩)
  · rw [atLeast_eq_false_of_read?_eq_none h] at hold
    exact Bool.false_ne_true hold
  · rw [atLeast_eq_false_of_read?_eq_none h] at hold
    exact Bool.false_ne_true hold

theorem accepts_iff_not_retired {version name : String} (h : name ≠ Flag.podMaxPids) :
    accepts version name = true ↔ ¬ Retired version name := by
  rw [accepts_iff, Retired, not_or, not_and, not_and, Bool.not_eq_true, Bool.not_eq_true]
  exact and_iff_right fun hname => absurd hname h

end FlagMap

namespace Plan

open FlagMap

/-- A role has a flag map after a pass, and a flag other than the gates and the limit is in it as
the layers and the version decide. -/
theorem get?_resolveRole_eq_some_iff (ctx : Context) (catalog : Catalog) (role : Role)
    (kind : RoleKind) {name : String} (hgates : name ≠ Flag.featureGates)
    (hpids : name ≠ Flag.podMaxPids) :
    ∃ flags, ((ofContext ctx catalog).resolveRole role kind).kubeletConfig = some flags ∧
      (∀ value, flags.get? name = some value ↔
        role.layeredValue ctx catalog name = some value ∧ value ≠ "" ∧
          ¬ Retired ctx.orchestratorVersion name) ∧
      (Version.read? ctx.orchestratorVersion = none →
        ¬ Retired ctx.orchestratorVersion name) := by
  refine ⟨(ofContext ctx catalog).resolveFlags role kind, rfl, fun value => ?_,
    fun hread => not_retired_of_read?_eq_none hread name⟩
  rw [get?_resolveFlags ctx catalog role kind hgates hpids]
  by_cases haccepts : accepts ctx.orchestratorVersion name = true
  · rw [if_pos haccepts, swept_eq_some_iff]
    have hretired := (accepts_iff_not_retired hpids).1 haccepts
    constructor
    · rintro ⟨hvalue, hne⟩
      exact ⟨hvalue, hne, hretired⟩
    · rintro ⟨hvalue, hne, -⟩
      exact ⟨hvalue, hne⟩
  · rw [if_neg haccepts]
    constructor
    · exact nofun
    · rintro ⟨-, -, hretired⟩
      exact absurd ((accepts_iff_not_retired hpids).2 hretired) haccepts

/-- A Windows role with a value of its own for a flag that the cluster's map empties. -/
theorem get?_resolveRole_own_value :
    ∃ flags,
      ((ofContext
          { orchestratorVersion := "1.15.0-beta.1",
            kubeletConfig := .ofList [(Flag.eventQps, "")] } {}).resolveRole
        { name := "pool", osFamily := .windows,
          kubeletConfig := some (.ofList [(Flag.eventQps, "5")]) } .workerPool).kubeletConfig =
          some flags ∧
      flags.get? Flag.eventQps = some "5" := by
  obtain ⟨flags, hflags, hvalue, -⟩ := get?_resolveRole_eq_some_iff
    { orchestratorVersion := "1.15.0-beta.1", kubeletConfig := .ofList [(Flag.eventQps, "")] } {}
    { name := "pool", osFamily := .windows,
      kubeletConfig := some (.ofList [(Flag.eventQps, "5")]) } .workerPool
    (by decide : Flag.eventQps ≠ Flag.featureGates) (by decide : Flag.eventQps ≠ Flag.podMaxPids)
  refine ⟨flags, hflags, (hvalue "5").2 ⟨?_, by decide, ?_⟩⟩
  · rw [Role.layeredValue, StaticFlags.get?_eq_none (by decide)]
    rfl
  · rintro (⟨hname, -⟩ | ⟨hname, -⟩)
    · exact absurd hname (by decide)
    · exact absurd hname (by decide)

end Plan

end NodeFlags
