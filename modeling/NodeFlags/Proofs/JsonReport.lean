import NodeFlags.Command.Report
import NodeFlags.Proofs.JsonLayout
import NodeFlags.Proofs.Listing

/-!
# What the JSON report tells

The two reports are written apart from each other, but they tell the same. A reader of
the JSON gets a `RoleEntry` for each role that was asked for, with its flags, their line
and, if one was asked for, the fingerprint (`RoleEntry.ofReport?`). It takes nothing for
granted: the text has to be one closed array, with closed objects in it that have the
fields of an entry and no other, each once. All roles of one name are told of. The text
report can then be written from what was read: where it gives the line of a role and the
digest, it gives those of the entry (`report_json_agrees_with_text`).
-/

namespace NodeFlags

/-! ### Values of one kind -/

namespace Json

variable {α β γ : Type}

/-- The text that a value is. -/
def text? : Json → Option String
  | .text s => s
  | _ => none

/-- The items of an array whose end was reached. -/
def items? : Json → Option (List Json)
  | .array items true => some items
  | _ => none

/-- The members of an object whose end was reached, if every key is a text that stands once. -/
def members? : Json → Option (List (String × Json))
  | .object members true => do
    let named ← members.mapM fun m => m.1.map (·, m.2)
    if (named.map (·.1)).Nodup then some named else none
  | _ => none

/-- The dictionary that an object of texts is. -/
def texts? (v : Json) : Option (Dict String) := do
  let members ← v.members?
  let pairs ← members.mapM fun m => m.2.text?.map (m.1, ·)
  return .ofList pairs

/-- What is written of each item of a list is read item by item. -/
theorem mapM_map_eq_some {write : α → β} {read : β → Option γ} {f : α → γ}
    (h : ∀ a, read (write a) = some (f a)) (l : List α) :
    (l.map write).mapM read = some (l.map f) := by
  have hread : read ∘ write = fun a => some (f a) := funext h
  rw [List.mapM_map, hread]
  exact List.mapM_pure

theorem mapM_map_eq_self {write : α → β} {read : β → Option α}
    (h : ∀ a, read (write a) = some a) (l : List α) : (l.map write).mapM read = some l := by
  rw [mapM_map_eq_some h, List.map_id']

theorem members?_ofMembers {members : List (String × Json)} (h : (members.map (·.1)).Nodup) :
    (ofMembers members).members? = some members := by
  have hnamed : (members.map fun m => (some m.1, m.2)).mapM
      (fun m : Option String × Json => m.1.map (·, m.2)) = some members :=
    mapM_map_eq_self (by intro _; rfl) members
  rw [ofMembers, members?, hnamed]
  exact if_pos h

theorem texts?_toJson (flags : FlagMap) : texts? flags.toJson = some flags := by
  have hkeys : ((flags.entries.map fun e => (e.1, ofText e.2)).map (·.1)).Nodup := by
    rw [List.map_map]
    exact flags.nodup_keys
  have hpairs : (flags.entries.map fun e => (e.1, ofText e.2)).mapM
      (fun m : String × Json => m.2.text?.map (m.1, ·)) = some flags.entries :=
    mapM_map_eq_self (by intro _; rfl) flags.entries
  have hdict : Dict.ofList flags.entries = flags := Dict.ofList_of_perm (.refl _)
  rw [texts?, FlagMap.toJson, members?_ofMembers hkeys, Option.bind_eq_bind, Option.bind_some,
    hpairs]
  exact congrArg some hdict

theorem plain_toJson (flags : FlagMap) : flags.toJson.Plain :=
  plain_ofMembers <| List.forall_mem_map.2 fun e _ => plain_ofText e.2

end Json

/-! ### Entries -/

namespace Command

/-- What an object of the report tells of a role. -/
structure RoleEntry where
  role : String
  flags : FlagMap
  rendered : String
  /-- There is none unless it was asked for. -/
  fingerprint : Option String
  deriving DecidableEq

namespace RoleEntry

/-- The names of the fields of an entry. -/
def fields : List String :=
  ["role", "flags", "rendered", "fingerprint"]

/-- The entry that an object is. -/
def ofJson? (v : Json) : Option RoleEntry := do
  let members ← v.members?
  if members.all fun m => fields.contains m.1 then
    let role ← (members.lookup "role").bind Json.text?
    let flags ← (members.lookup "flags").bind Json.texts?
    let rendered ← (members.lookup "rendered").bind Json.text?
    match members.lookup "fingerprint" with
    | none => return { role, flags, rendered, fingerprint := none }
    | some v => return { role, flags, rendered, fingerprint := some (← v.text?) }
  else none

/-- The entries of a report in JSON. -/
def ofReport? (report : String) : Option (List RoleEntry) :=
  match Json.read report.toList with
  | (v, true) => do (← v.items?).mapM ofJson?
  | (_, false) => none

/-- The block of a role in the text, with the line and the digest of an entry. -/
def block (role : Role) (e : RoleEntry) : String :=
  "\n[" ++ e.role ++ "] " ++ osTitle role.osFamily ++ " " ++
    (if role.vmSize.isEmpty then "-" else role.vmSize) ++ "\n" ++
    "  " ++ e.rendered ++ "\n" ++
    match e.fingerprint with
    | some digest => "  sha256: " ++ digest ++ "\n"
    | none => ""

/-- The entry of a role. -/
def ofRole (o : Options) (role : Role) : RoleEntry where
  role := role.name
  flags := role.kubeletConfig.getD {}
  rendered := role.flags.render
  fingerprint := if o.fingerprint then some role.flags.fingerprint else none

theorem block_ofRole (o : Options) (role : Role) :
    block role (ofRole o role) = roleBlock o role := by
  unfold block ofRole roleBlock
  cases o.fingerprint <;> rfl

/-- **The object of a role is read as its entry.** -/
theorem ofJson?_roleJson (o : Options) (role : Role) :
    ofJson? (roleJson o role) = some (ofRole o role) := by
  have hflags : Json.texts? (role.kubeletConfig.getD {}).toJson =
      some (role.kubeletConfig.getD {}) := Json.texts?_toJson _
  unfold ofJson? roleJson ofRole Role.flags
  cases o.fingerprint
  all_goals
    rw [Json.members?_ofMembers (by simp)]
    simp [fields, Dict.lookup_cons_eq_ite, Json.text?, Json.ofText, hflags]

end RoleEntry

theorem plain_roleJson (o : Options) (role : Role) : (roleJson o role).Plain := by
  have htext := Json.plain_ofText
  have hflags := Json.plain_toJson role.flags
  refine Json.plain_ofMembers (List.forall_mem_append.2 ⟨?_, ?_⟩)
  · simp [htext, hflags]
  · cases o.fingerprint <;> simp [htext]

/-- The entries of the roles that were asked for are read from the report in JSON. -/
theorem ofReport?_report (d : Definition) (o : Options) :
    RoleEntry.ofReport? (report d { o with format := .json }) =
      some ((selectedRoles d o).map (RoleEntry.ofRole o)) := by
  have hplain : (Json.ofItems ((selectedRoles d o).map (roleJson o))).Plain :=
    Json.plain_ofItems <| List.forall_mem_map.2 fun role _ => plain_roleJson o role
  have hreport : report d { o with format := .json } =
      (Json.ofItems ((selectedRoles d o).map (roleJson o))).pretty := rfl
  rw [hreport, RoleEntry.ofReport?, Json.read_pretty hplain]
  exact Json.mapM_map_eq_some (RoleEntry.ofJson?_roleJson o) (selectedRoles d o)

/-- **The report in JSON is faithful and agrees with the text.** The roles that are reported on are
all of them, the control plane before the pools, or those of the name that is asked for, however
many there are. Whatever stands in names, flags and values, the report is read as one entry for each
of these roles, in their order: the name of the role, its flags, of which a role without a flag map
has none, their line, and the fingerprint just if it was asked for. The text for the same options
has the line and the fingerprint of each entry in the block of its role. -/
theorem report_json_agrees_with_text (d : Definition) (o : Options) :
    ∃ (roles : List Role) (entries : List RoleEntry),
      (o.role = none → roles = d.controlPlane.toList ++ d.workerPools) ∧
      (∀ name, o.role = some name →
        roles = (d.controlPlane.toList ++ d.workerPools).filter (·.name = name)) ∧
      RoleEntry.ofReport? (report d { o with format := .json }) = some entries ∧
      entries = roles.map (fun role =>
        { role := role.name
          flags := role.kubeletConfig.getD {}
          rendered := role.flags.render
          fingerprint := if o.fingerprint then some role.flags.fingerprint else none }) ∧
      report d { o with format := .text } =
        header d ++ String.join (List.zipWith RoleEntry.block roles entries) := by
  refine ⟨selectedRoles d o, _, fun hrole => selectedRoles_of_role_eq_none hrole d,
    fun _ hrole => selectedRoles_of_role_eq_some hrole d, ofReport?_report d o, rfl, ?_⟩
  have hblocks : List.zipWith RoleEntry.block (selectedRoles d o)
      ((selectedRoles d o).map (RoleEntry.ofRole o)) = (selectedRoles d o).map (roleBlock o) := by
    rw [List.zipWith_map_right, List.zipWith_self]
    exact List.map_congr_left fun role _ => RoleEntry.block_ofRole o role
  rw [hblocks]
  rfl

/-- Two roles of the name that is asked for, the first without a flag map, and one of another name
between them; with quotes, backslashes, control characters and letters beyond ASCII. -/
theorem report_json_agrees_with_text_equal_names :
    let name := "Größe \"\\\x01"
    let flags : FlagMap := ⟨[("--\"ключ\\", "a\t\"b\\\n𝄞")], by decide⟩
    let d : Definition :=
      { context := { orchestratorVersion := "1.14.0" }
        controlPlane := some { name }
        workerPools :=
          [{ name := "pool" }, { name, osFamily := .windows, kubeletConfig := some flags }] }
    let o : Options := { clusterFile := "cluster.json", role := some name, fingerprint := true }
    let digest := "e3b0c44298fc1c149afbf4c8996fb92427ae41e4649b934ca495991b7852b855"
    let digest' := "4dc8cee45500b8c73e618d71e5a5fd0824170bb905c8c277523076774bf39c13"
    RoleEntry.ofReport? (report d { o with format := .json }) =
        some
          [{ role := name, flags := {}, rendered := "", fingerprint := some digest },
           { role := name, flags, rendered := "--\"ключ\\=a\t\"b\\\n𝄞"
             fingerprint := some digest' }] ∧
      report d { o with format := .text } =
        "Orchestrator version: 1.14.0\n" ++
        "\n[Größe \"\\\x01] Linux -\n  \n  sha256: " ++ digest ++ "\n" ++
        "\n[Größe \"\\\x01] Windows -\n  --\"ключ\\=a\t\"b\\\n𝄞\n" ++
        "  sha256: " ++ digest' ++ "\n" ∧
      (RoleEntry.ofReport? (report d { o with role := none, format := .json })).map
        (·.map RoleEntry.role) = some [name, "pool", name] := by
  intro name flags d o digest digest'
  obtain ⟨roles, entries, -, hroles, hread, hentries, htext⟩ := report_json_agrees_with_text d o
  obtain rfl : roles = [{ name }, { name, osFamily := .windows, kubeletConfig := some flags }] :=
    (hroles name rfl).trans (by decide +kernel)
  rw [hentries] at hread htext
  refine ⟨hread.trans (by decide +kernel), htext.trans (by decide +kernel), ?_⟩
  obtain ⟨all, entries', hall, -, hread', hentries', -⟩ :=
    report_json_agrees_with_text d { o with role := none }
  rw [hread', hentries', hall rfl]
  rfl

end Command

end NodeFlags
