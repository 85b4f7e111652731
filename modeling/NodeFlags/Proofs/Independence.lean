import Mathlib.Data.List.InsertIdx
import NodeFlags.Resolution

/-!
# Roles beside one another

A pass resolves all roles of a cluster from one snapshot, whatever operating system,
hardware or kind they have. Two things are proved of the cluster that it leaves
behind.

* But for the flag maps of its roles the cluster is the same as before
  (`Definition.SameOutline`).
* No role sees another. The flags that a role receives are those it receives in a
  cluster of its own (`Definition.ofControlPlane`, `Definition.ofPool`). So the pools
  may be taken in any order, and a role that comes, goes or changes leaves the others'
  flags alone.
-/

namespace NodeFlags

/-- What a role is, whatever its flags: its name, its operating system and its hardware size. -/
def Role.outline (role : Role) : String × OsFamily × String :=
  (role.name, role.osFamily, role.vmSize)

namespace Definition

/-- Two clusters that differ at most in the flag maps of their roles. -/
structure SameOutline (d e : Definition) : Prop where
  context : e.context = d.context
  components : e.components = d.components
  /-- There is a control plane in both or in neither. -/
  controlPlane : e.controlPlane.map Role.outline = d.controlPlane.map Role.outline
  /-- The pools are as many as before, and in the same order. -/
  workerPools : e.workerPools.map Role.outline = d.workerPools.map Role.outline

/-- The cluster in which a role is the control plane and there are no other roles. -/
def ofControlPlane (ctx : Context) (role : Role) : Definition where
  context := ctx
  controlPlane := some role

/-- The cluster in which a role is a worker pool and there are no other roles. -/
def ofPool (ctx : Context) (role : Role) : Definition where
  context := ctx
  workerPools := [role]

section Pass

variable (d : Definition) (catalog : Catalog)

theorem controlPlane_resolveWith :
    (d.resolveWith catalog).controlPlane =
      d.controlPlane.map ((Plan.ofContext d.context catalog).resolveRole · .controlPlane) := rfl

theorem workerPools_resolveWith :
    (d.resolveWith catalog).workerPools =
      d.workerPools.map ((Plan.ofContext d.context catalog).resolveRole · .workerPool) := rfl

/-- A pass keeps everything but the flag maps. -/
theorem sameOutline_resolveWith : d.SameOutline (d.resolveWith catalog) where
  context := rfl
  components := rfl
  controlPlane := by
    rw [controlPlane_resolveWith, Option.map_map]
    rfl
  workerPools := by
    rw [workerPools_resolveWith, List.map_map]
    rfl

/-- Every role has a flag map after a pass. -/
theorem kubeletConfig_of_mem_roles_resolveWith {role : Role}
    (h : role ∈ (d.resolveWith catalog).roles) : ∃ flags, role.kubeletConfig = some flags := by
  rcases List.mem_append.1 h with h | h
  · rw [controlPlane_resolveWith, Option.mem_toList, Option.map_eq_some_iff] at h
    obtain ⟨before, -, rfl⟩ := h
    exact ⟨_, rfl⟩
  · rw [workerPools_resolveWith] at h
    obtain ⟨before, -, rfl⟩ := List.mem_map.1 h
    exact ⟨_, rfl⟩

/-- The control plane is resolved as if it were alone. -/
theorem controlPlane_resolveWith_eq_bind :
    (d.resolveWith catalog).controlPlane =
      d.controlPlane.bind fun role =>
        ((ofControlPlane d.context role).resolveWith catalog).controlPlane := by
  rw [controlPlane_resolveWith]
  cases d.controlPlane <;> rfl

/-- Each pool is resolved as if it were alone. -/
theorem workerPools_resolveWith_eq_flatMap :
    (d.resolveWith catalog).workerPools =
      d.workerPools.flatMap fun role =>
        ((ofPool d.context role).resolveWith catalog).workerPools := by
  rw [workerPools_resolveWith, List.map_eq_flatMap]
  rfl

/-- Pools picked by their places, in any order, are resolved to what stands at these places. -/
theorem workerPools_resolveWith_pick (places : List Nat) :
    ({ d with workerPools := places.filterMap (d.workerPools[·]?) }.resolveWith
        catalog).workerPools =
      places.filterMap ((d.resolveWith catalog).workerPools[·]?) := by
  simp only [workerPools_resolveWith, List.map_filterMap, List.getElem?_map]

end Pass

/-- **Roles are independent.** A pass keeps everything but the flag maps and gives every role one,
the map that the role receives where there is no other role. In particular the order of the pools
does not matter, and a role that is added, removed or changed changes no other role's flags. -/
theorem resolveWith_frame_and_independence (d : Definition) (catalog : Catalog) :
    let resolved := d.resolveWith catalog
    d.SameOutline resolved ∧
    (∀ role ∈ resolved.roles, ∃ flags, role.kubeletConfig = some flags) ∧
    -- each role as if it were alone
    (resolved.controlPlane =
      d.controlPlane.bind fun role =>
        ((ofControlPlane d.context role).resolveWith catalog).controlPlane) ∧
    (resolved.workerPools =
      d.workerPools.flatMap fun role =>
        ((ofPool d.context role).resolveWith catalog).workerPools) ∧
    -- pools in another order
    (∀ places : List Nat,
      ({ d with workerPools := places.filterMap (d.workerPools[·]?) }.resolveWith
          catalog).workerPools =
        places.filterMap (resolved.workerPools[·]?)) ∧
    -- a pool added, removed or changed
    (∀ i role,
      ({ d with workerPools := d.workerPools.insertIdx i role }.resolveWith
        catalog).workerPools.eraseIdx i = resolved.workerPools) ∧
    (∀ i,
      ({ d with workerPools := d.workerPools.eraseIdx i }.resolveWith catalog).workerPools =
        resolved.workerPools.eraseIdx i) ∧
    (∀ i role,
      ({ d with workerPools := d.workerPools.set i role }.resolveWith
        catalog).workerPools.eraseIdx i = resolved.workerPools.eraseIdx i) ∧
    (∀ pools,
      ({ d with workerPools := pools }.resolveWith catalog).controlPlane =
        resolved.controlPlane) ∧
    -- the control plane added, removed or changed
    ∀ master,
      ({ d with controlPlane := master }.resolveWith catalog).workerPools =
        resolved.workerPools := by
  intro resolved
  refine ⟨sameOutline_resolveWith d catalog,
    fun _ => kubeletConfig_of_mem_roles_resolveWith d catalog,
    controlPlane_resolveWith_eq_bind d catalog, workerPools_resolveWith_eq_flatMap d catalog,
    workerPools_resolveWith_pick d catalog, ?_, ?_, ?_, fun _ => rfl, fun _ => rfl⟩
  · intro i role
    rw [workerPools_resolveWith, List.map_insertIdx, List.eraseIdx_insertIdx_self]
    rfl
  · intro i
    rw [workerPools_resolveWith, ← List.eraseIdx_map]
    rfl
  · intro i role
    rw [workerPools_resolveWith, List.map_set, List.eraseIdx_set_eq]
    rfl

/-- A pool on graphics hardware and a Windows pool beside a control plane, in either order. -/
theorem resolveWith_pools_swapped :
    let gpu : Role := { name := "gpu", vmSize := "Standard_NC6" }
    let win : Role := { name := "win", osFamily := .windows }
    let d : Definition :=
      { context := { orchestratorVersion := "1.9.0" }
        controlPlane := some { name := "master" }
        workerPools := [gpu, win] }
    (∀ role ∈ (d.resolveWith {}).roles, ∃ flags, role.kubeletConfig = some flags) ∧
      ({ d with workerPools := [win, gpu] }.resolveWith {}).workerPools =
        (d.resolveWith {}).workerPools.reverse := by
  intro gpu win d
  obtain ⟨-, hflags, -, -, hplaces, -⟩ := resolveWith_frame_and_independence d {}
  exact ⟨hflags, hplaces [1, 0]⟩

end Definition

end NodeFlags
