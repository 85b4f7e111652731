import NodeFlags.Command.Run
import NodeFlags.Proofs.Arguments
import NodeFlags.Proofs.Stored

/-!
# Showing one role

Asking for a role restricts what a run prints and nothing else. The cluster is loaded,
adjusted and resolved as a whole either way; a run fails only if it cannot be loaded or
lacks the role (`execute_eq_ok_iff`), and then prints nothing. Else the run prints what
the run without the role option prints, with the blocks or the array items of the roles
of that name alone (`run_restricted`).
-/

namespace NodeFlags.Command

/-- The report on roles of a resolved cluster, as the options want it. -/
def reportOn (o : Options) (d : Definition) (roles : List Role) : String :=
  match o.format with
  | .text => header d ++ String.join (roles.map (roleBlock o))
  | .json => (Json.ofItems (roles.map (roleJson o))).pretty

theorem report_of_role_eq_none {o : Options} (h : o.role = none) (d : Definition) :
    report d o = reportOn o d d.roles := by
  rw [report, selectedRoles_of_role_eq_none h]
  rfl

theorem report_of_role_eq_some {o : Options} {name : String} (h : o.role = some name)
    (d : Definition) : report d o = reportOn o d (d.roles.filter (·.name == name)) := by
  rw [report, selectedRoles_of_role_eq_some h]
  rfl

/-- A definition has a role of the name that is asked for, if one is. -/
def HasRole (d : Definition) (o : Options) : Prop :=
  ∀ name, o.role = some name → ∃ role ∈ d.roles, role.name = name

theorem hasRole_iff {d : Definition} {o : Options} {name : String} (h : o.role = some name) :
    HasRole d o ↔ (d.findRole? name).isNone = false := by
  rw [← Bool.not_eq_true, Option.isNone_iff_eq_none, Definition.findRole?, List.find?_eq_none]
  constructor
  · intro hhas hnone
    obtain ⟨role, hmem, hname⟩ := hhas name h
    exact hnone role hmem (beq_iff_eq.2 hname)
  · intro hsome other hother
    cases h.symm.trans hother
    by_contra hnone
    exact hsome fun role hmem hname => hnone ⟨role, hmem, beq_iff_eq.1 hname⟩

variable {readFile : String → Except FileError ByteArray} {env : Path.Environment}
  {account : Option String}

/-- What there is to report once a definition is loaded. -/
theorem execute_of_load {o : Options} {d : Definition}
    (h : Definition.load readFile env account o.clusterFile = .ok d) :
    execute readFile env account o =
      match o.role with
      | none => .ok (report (adjust d o).resolve o)
      | some name =>
        if (d.findRole? name).isNone then
          .error { summary := "Role '" ++ name ++ "' is not defined in the cluster definition" }
        else .ok (report (adjust d o).resolve o) := by
  rw [execute, h]
  cases o.role <;> rfl

/-- **When there is a report**: the definition can be loaded, and has the role. -/
theorem execute_eq_ok_iff {o : Options} {text : String} :
    execute readFile env account o = .ok text ↔
      ∃ d, Definition.load readFile env account o.clusterFile = .ok d ∧ HasRole d o ∧
        report (adjust d o).resolve o = text := by
  cases hload : Definition.load readFile env account o.clusterFile with
  | error e =>
    rw [execute, hload]
    exact ⟨nofun, fun ⟨_, h, _⟩ => nomatch h⟩
  | ok d =>
    simp only [execute_of_load hload, Except.ok.injEq, exists_eq_left']
    cases hrole : o.role with
    | none =>
      have hhas : HasRole d o := fun name hname => nomatch hrole.symm.trans hname
      simp only [hhas, true_and, Except.ok.injEq]
    | some name =>
      rw [hasRole_iff hrole]
      cases hnone : (d.findRole? name).isNone with
      | true =>
        simp only [hnone, if_true, Bool.true_eq_false, false_and, iff_false]
        exact nofun
      | false => simp only [hnone, Bool.false_eq_true, if_false, true_and, Except.ok.injEq]

theorem run_of_execute_ok {args : List String} {o : Options}
    (hargs : Options.ofArguments args = .ok o) {text : String}
    (h : execute readFile env account o = .ok text) :
    run args readFile env account = { exitCode := 0, stdout := text ++ "\n" } := by
  simp only [run, hargs, h]

theorem run_of_execute_error {args : List String} {o : Options}
    (hargs : Options.ofArguments args = .ok o) {f : Failure}
    (h : execute readFile env account o = .error f) :
    run args readFile env account = { exitCode := 1, stderr := f.report } := by
  simp only [run, hargs, h]

/-- A run succeeds where there is a report. -/
theorem exitCode_run_eq_zero_iff {args : List String} {o : Options}
    (hargs : Options.ofArguments args = .ok o) :
    (run args readFile env account).exitCode = 0 ↔
      ∃ text, execute readFile env account o = .ok text := by
  cases hexecute : execute readFile env account o with
  | ok text =>
    rw [run_of_execute_ok hargs hexecute]
    exact ⟨fun _ => ⟨text, rfl⟩, fun _ => rfl⟩
  | error f =>
    rw [run_of_execute_error hargs hexecute]
    exact ⟨nofun, nofun⟩

/-- A run that does not succeed ends with code 1 and prints nothing. -/
theorem exitCode_run {args : List String} {o : Options}
    (hargs : Options.ofArguments args = .ok o) :
    (run args readFile env account).exitCode = 0 ∨
      (run args readFile env account).exitCode = 1 ∧
        (run args readFile env account).stdout = "" := by
  cases hexecute : execute readFile env account o with
  | ok text => exact .inl (by rw [run_of_execute_ok hargs hexecute])
  | error f => exact .inr (by rw [run_of_execute_error hargs hexecute]; exact ⟨rfl, rfl⟩)

/-- **Asking for a role restricts what is printed, and nothing else.** A run whose arguments are
good succeeds exactly if the definition can be loaded and has the role that is asked for, and else
prints nothing. Where it succeeds the run without the role option does too, and of its report it
prints the part on the roles of that name, whatever the other options are. -/
theorem run_restricted {args : List String} {o : Options}
    (hargs : Options.ofArguments args = .ok o)
    (readFile : String → Except FileError ByteArray) (env : Path.Environment)
    (account : Option String) :
    let outcome := run args readFile env account
    let whole := run (withoutRole false args) readFile env account
    -- when the run succeeds, and what it leaves behind if it does not
    (outcome.exitCode = 0 ↔
      ∃ d, Definition.load readFile env account o.clusterFile = .ok d ∧
        ∀ name, o.role = some name → ∃ role ∈ d.roles, role.name = name) ∧
    (outcome.exitCode = 0 ∨ outcome.exitCode = 1) ∧
    (outcome.exitCode = 1 → outcome.stdout = "") ∧
    -- the same run without the role, and which of its roles are printed
    Options.ofArguments (withoutRole false args) = .ok { o with role := none } ∧
    ∀ name, o.role = some name → outcome.exitCode = 0 →
      whole.exitCode = 0 ∧
        ∃ d, Definition.load readFile env account o.clusterFile = .ok d ∧
          let resolved := (adjust d o).resolve
          whole.stdout = reportOn o resolved resolved.roles ++ "\n" ∧
            outcome.stdout =
              reportOn o resolved (resolved.roles.filter (·.name == name)) ++ "\n" := by
  intro outcome whole
  have hwhole := Options.ofArguments_withoutRole hargs
  refine ⟨?_, (exitCode_run hargs).imp id And.left, ?_, hwhole, ?_⟩
  · rw [exitCode_run_eq_zero_iff hargs]
    constructor
    · rintro ⟨text, htext⟩
      obtain ⟨d, hload, hhas, -⟩ := execute_eq_ok_iff.1 htext
      exact ⟨d, hload, hhas⟩
    · rintro ⟨d, hload, hhas⟩
      exact ⟨_, execute_eq_ok_iff.2 ⟨d, hload, hhas, rfl⟩⟩
  · intro hone
    rcases exitCode_run hargs with hzero | ⟨-, hempty⟩
    · exact absurd (hone.symm.trans hzero) Nat.one_ne_zero
    · exact hempty
  · intro name hname hzero
    obtain ⟨text, htext⟩ := (exitCode_run_eq_zero_iff hargs).1 hzero
    obtain ⟨d, hload, -, rfl⟩ := execute_eq_ok_iff.1 htext
    -- without the role the same definition is loaded, and all its roles are reported on
    have hall : execute readFile env account { o with role := none } =
        .ok (report (adjust d o).resolve { o with role := none }) :=
      execute_eq_ok_iff.2 ⟨d, hload, nofun, rfl⟩
    have hunrestricted : whole = _ := run_of_execute_ok hwhole hall
    have hrestricted : outcome = _ := run_of_execute_ok hargs htext
    refine ⟨(exitCode_run_eq_zero_iff hwhole).2 ⟨_, hall⟩, d, hload, ?_, ?_⟩
    · rw [hunrestricted, report_of_role_eq_none rfl]
      rfl
    · rw [hrestricted, report_of_role_eq_some hname]

/-- The second of two pools, shown alone. -/
theorem run_restricted_to_pool :
    let d : Definition :=
      { context := { orchestratorVersion := "1.14.0" }
        workerPools := [{ name := "a" }, { name := "b" }] }
    let readFile : String → Except FileError ByteArray := fun _ => .ok d.toJson.compact.toUTF8
    let args := ["--fingerprint", "--role", "b", "cluster.json"]
    Options.ofArguments args =
        .ok { clusterFile := "cluster.json", role := some "b", fingerprint := true } ∧
      (run args readFile (fun _ => none) none).exitCode = 0 ∧
      withoutRole false args = ["--fingerprint", "cluster.json"] ∧
      (run ["--fingerprint", "cluster.json"] readFile (fun _ => none) none).exitCode = 0 := by
  intro d readFile args
  have hargs : Options.ofArguments args =
      .ok { clusterFile := "cluster.json", role := some "b", fingerprint := true } := by
    decide
  have hpath : Path.expand (fun _ => none) none "cluster.json" = "cluster.json" := by
    decide +kernel
  have hload : Definition.load readFile (fun _ => none) none "cluster.json" = .ok d :=
    Definition.load_of_writtenAs d.writtenAs_toJson (by rw [hpath]; rfl) rfl
  obtain ⟨hzero, -, -, -, hwhole⟩ := run_restricted hargs readFile (fun _ => none) none
  have hsuccess : (run args readFile (fun _ => none) none).exitCode = 0 := by
    refine hzero.2 ⟨d, hload, fun name hname => ?_⟩
    cases hname
    exact ⟨{ name := "b" }, by decide, rfl⟩
  exact ⟨hargs, hsuccess, by decide, (hwhole "b" rfl hsuccess).1⟩

end NodeFlags.Command
