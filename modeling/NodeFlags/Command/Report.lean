import NodeFlags.Command.Options
import NodeFlags.Flag.Fingerprint
import NodeFlags.Schema.Json

/-!
# The report on resolved roles

The roles that were asked for with their flags, as text or as JSON. The text has one
line on the cluster and a block for each role; the JSON is an array with an object
for each role.
-/

namespace NodeFlags.Command

/-- The roles of a definition that were asked for. -/
def selectedRoles (d : Definition) (o : Options) : List Role :=
  match o.role with
  | none => d.roles
  | some name => d.roles.filter (·.name == name)

theorem selectedRoles_of_role_eq_none {o : Options} (h : o.role = none) (d : Definition) :
    selectedRoles d o = d.roles := by
  rw [selectedRoles, h]

theorem selectedRoles_of_role_eq_some {o : Options} {name : String} (h : o.role = some name)
    (d : Definition) : selectedRoles d o = d.roles.filter (·.name == name) := by
  rw [selectedRoles, h]

/-- How the text names an operating system. -/
def osTitle : OsFamily → String
  | .linux => "Linux"
  | .windows => "Windows"

/-- The first line of the text. -/
def header (d : Definition) : String :=
  "Orchestrator version: " ++ d.context.orchestratorVersion ++
    (if d.context.isUpgrade then " (upgrade)" else "") ++ "\n"

/-- The block of a role. -/
def roleBlock (o : Options) (role : Role) : String :=
  "\n[" ++ role.name ++ "] " ++ osTitle role.osFamily ++ " " ++
    (if role.vmSize.isEmpty then "-" else role.vmSize) ++ "\n" ++
    "  " ++ role.flags.render ++ "\n" ++
    (if o.fingerprint then "  sha256: " ++ role.flags.fingerprint ++ "\n" else "")

/-- The object of a role. -/
def roleJson (o : Options) (role : Role) : Json :=
  .ofMembers <|
    [("role", .ofText role.name),
     ("flags", role.flags.toJson),
     ("rendered", .ofText role.flags.render)] ++
    if o.fingerprint then [("fingerprint", .ofText role.flags.fingerprint)] else []

/-- The report on the roles that were asked for. -/
def report (d : Definition) (o : Options) : String :=
  match o.format with
  | .text => header d ++ String.join ((selectedRoles d o).map (roleBlock o))
  | .json => (Json.ofItems ((selectedRoles d o).map (roleJson o))).pretty

end NodeFlags.Command
