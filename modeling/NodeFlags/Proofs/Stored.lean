import NodeFlags.Proofs.JsonRecord
import NodeFlags.Schema.Load

/-!
# Definitions in storage

A definition is stored as compact JSON. The flags and the catalog are written in
whatever order they come, an absent control plane or flag map is left out, and any
other member that holds its default may be left out as well: `Definition.WrittenAs`
says which values a definition may be written as, and what the defaults are.

The main result is `Definition.read_written`: from the text of each such value the
definition is read back, whatever characters stand in its texts.
-/

namespace NodeFlags

open Json (Member HasMembers HasEntries HasItems ReadBack Matches)

/-! ### What may be written -/

/-- Flags as they may be written. -/
abbrev FlagMap.WrittenAs (flags : FlagMap) : Json → Prop :=
  HasEntries Json.ofText flags

/-- A catalog as it may be written. -/
abbrev Catalog.WrittenAs (catalog : Catalog) : Json → Prop :=
  HasEntries Components.toJson catalog

/-- The members of a context. -/
def Context.members (c : Context) : List Member :=
  [.always "orchestrator-version" (· = .ofText c.orchestratorVersion),
   ⟨"dns-service-ip", (· = .ofText c.dnsServiceIp), c.dnsServiceIp = "10.0.0.10"⟩,
   ⟨"image-base", (· = .ofText c.imageBase), c.imageBase = "k8s.gcr.io/"⟩,
   ⟨"network-plugin", (· = .ofText (nameIn NetworkPlugin.names c.networkPlugin)),
     c.networkPlugin = .kubenet⟩,
   ⟨"network-policy", (· = .ofText (nameIn NetworkPolicy.names c.networkPolicy)),
     c.networkPolicy = .none⟩,
   ⟨"cloud-provider", (· = .ofText (nameIn CloudProvider.names c.cloudProvider)),
     c.cloudProvider = .managed⟩,
   ⟨"ip-masq-agent", (· = .bool c.ipMasqAgent), c.ipMasqAgent = true⟩,
   ⟨"cluster-subnet", (· = .ofText c.clusterSubnet), c.clusterSubnet = "10.244.0.0/16"⟩,
   ⟨"secure-kubelet", (· = .bool c.secureKubelet), c.secureKubelet = true⟩,
   ⟨"gpu-device-plugin", (· = .bool c.gpuDevicePlugin), c.gpuDevicePlugin = false⟩,
   ⟨"is-upgrade", (· = .bool c.isUpgrade), c.isUpgrade = false⟩,
   ⟨"kubelet-config", c.kubeletConfig.WrittenAs, c.kubeletConfig = {}⟩]

/-- A context as it may be written. -/
abbrev Context.WrittenAs (c : Context) : Json → Prop :=
  HasMembers c.members

/-- The members of a role. -/
def Role.members (role : Role) : List Member :=
  [.always "name" (· = .ofText role.name),
   ⟨"os-family", (· = .ofText (nameIn OsFamily.names role.osFamily)), role.osFamily = .linux⟩,
   ⟨"vm-size", (· = .ofText role.vmSize), role.vmSize = ""⟩,
   .ifSome "kubelet-config" FlagMap.WrittenAs role.kubeletConfig]

/-- A role as it may be written. -/
abbrev Role.WrittenAs (role : Role) : Json → Prop :=
  HasMembers role.members

/-- The members of a catalog entry. -/
def Components.members (c : Components) : List Member :=
  [.always "pause" (· = .ofText c.pause),
   .always "node-status-frequency" (· = .ofText c.nodeStatusFrequency)]

/-- The members of a definition. -/
def Definition.members (d : Definition) : List Member :=
  [.always "context" d.context.WrittenAs,
   .ifSome "control-plane" Role.WrittenAs d.controlPlane,
   ⟨"worker-pools", HasItems Role.WrittenAs d.workerPools, d.workerPools = []⟩,
   ⟨"components", Catalog.WrittenAs d.components, d.components = {}⟩]

/-- A definition as it may be written. -/
abbrev Definition.WrittenAs (d : Definition) : Json → Prop :=
  HasMembers d.members

/-! ### Names -/

theorem NetworkPlugin.lookup_nameIn (p : NetworkPlugin) :
    names.lookup (nameIn names p) = some p := by
  cases p <;> rfl

theorem NetworkPolicy.lookup_nameIn (p : NetworkPolicy) :
    names.lookup (nameIn names p) = some p := by
  cases p <;> rfl

theorem CloudProvider.lookup_nameIn (p : CloudProvider) :
    names.lookup (nameIn names p) = some p := by
  cases p <;> rfl

theorem OsFamily.lookup_nameIn (os : OsFamily) : names.lookup (nameIn names os) = some os := by
  cases os <;> rfl

/-! ### Reading back -/

theorem FlagMap.readBack (flags : FlagMap) :
    ReadBack flags.WrittenAs Json.reader.flagMap flags :=
  Json.readBack_dict Json.readBack_text flags

theorem Context.readBack (c : Context) : ReadBack c.WrittenAs Json.reader.context c := by
  refine Json.readBack_record (by decide) ?_ "ClusterContext"
  unfold Reader.contextFields Context.members
  -- one field after the other; in between the record put together so far is made flat again
  refine .mandatory (Json.readBack_text _) ?_
  dsimp only
  refine .optional (Json.readBack_text _) (fun h => by rw [h]) ?_
  dsimp only
  refine .optional (Json.readBack_text _) (fun h => by rw [h]) ?_
  dsimp only
  refine .optional (Json.readBack_choice c.networkPlugin.lookup_nameIn) (fun h => by rw [h]) ?_
  dsimp only
  refine .optional (Json.readBack_choice c.networkPolicy.lookup_nameIn) (fun h => by rw [h]) ?_
  dsimp only
  refine .optional (Json.readBack_choice c.cloudProvider.lookup_nameIn) (fun h => by rw [h]) ?_
  dsimp only
  refine .optional (Json.readBack_switch _) (fun h => by rw [h]) ?_
  dsimp only
  refine .optional (Json.readBack_text _) (fun h => by rw [h]) ?_
  dsimp only
  refine .optional (Json.readBack_switch _) (fun h => by rw [h]) ?_
  dsimp only
  refine .optional (Json.readBack_switch _) (fun h => by rw [h]) ?_
  dsimp only
  refine .optional (Json.readBack_switch _) (fun h => by rw [h]) ?_
  dsimp only
  refine .optional c.kubeletConfig.readBack (fun h => by rw [h]) ?_
  exact .nil c

theorem Role.readBack (role : Role) : ReadBack role.WrittenAs Json.reader.role role := by
  refine Json.readBack_record (by decide) ?_ "Role"
  unfold Reader.roleFields Role.members
  refine .mandatory (Json.readBack_text _) ?_
  dsimp only
  refine .optional (Json.readBack_choice role.osFamily.lookup_nameIn) (fun h => by rw [h]) ?_
  dsimp only
  refine .optional (Json.readBack_text _) (fun h => by rw [h]) ?_
  dsimp only
  refine .optional (Json.readBack_ifSome FlagMap.readBack (Json.not_hasEntries_null _) _)
    (fun h => by rw [h]) ?_
  exact .nil role

theorem Components.readBack (c : Components) :
    ReadBack (· = c.toJson) Json.reader.components c := by
  rintro v rfl
  have hrecord : ReadBack (HasMembers c.members) Json.reader.components c := by
    refine Json.readBack_record (by decide) ?_ "ComponentVersions"
    unfold Reader.componentsFields Components.members
    refine .mandatory (Json.readBack_text _) ?_
    dsimp only
    refine .mandatory (Json.readBack_text _) ?_
    exact .nil c
  exact hrecord _ ⟨_, .keep rfl (.keep rfl .nil), rfl⟩

theorem Catalog.readBack (catalog : Catalog) :
    ReadBack catalog.WrittenAs Json.reader.catalog catalog :=
  Json.readBack_dict Components.readBack catalog

theorem Definition.readBack (d : Definition) :
    ReadBack d.WrittenAs Json.reader.definition d := by
  refine Json.readBack_record (by decide) ?_ "ClusterDefinition"
  unfold Reader.definitionFields Definition.members
  refine .mandatory d.context.readBack ?_
  dsimp only
  refine .optional (Json.readBack_ifSome Role.readBack (fun _ => Json.not_hasMembers_null _) _)
    (fun h => by rw [h]) ?_
  dsimp only
  refine .optional (Json.readBack_list Role.readBack _) (fun h => by rw [h]) ?_
  dsimp only
  refine .optional (Catalog.readBack d.components) (fun h => by rw [h]) ?_
  exact .nil d

/-! ### What is written -/

theorem FlagMap.writtenAs_toJson (flags : FlagMap) : flags.WrittenAs flags.toJson :=
  ⟨flags.entries, .refl _, rfl⟩

theorem Catalog.writtenAs_toJson (catalog : Catalog) : catalog.WrittenAs catalog.toJson :=
  ⟨catalog.entries, .refl _, rfl⟩

theorem Context.writtenAs_toJson (c : Context) : c.WrittenAs c.toJson := by
  have hflags := c.kubeletConfig.writtenAs_toJson
  exact ⟨_, .keep rfl <| .keep rfl <| .keep rfl <| .keep rfl <| .keep rfl <| .keep rfl <|
    .keep rfl <| .keep rfl <| .keep rfl <| .keep rfl <| .keep rfl <| .keep hflags .nil, rfl⟩

theorem Role.writtenAs_toJson (role : Role) : role.WrittenAs role.toJson := by
  obtain ⟨name, os, size, _ | flags⟩ := role
  · exact ⟨_, .keep rfl <| .keep rfl <| .keep rfl <| .drop rfl .nil, rfl⟩
  · have hflags : ∃ fs, some flags = some fs ∧ fs.WrittenAs flags.toJson :=
      ⟨flags, rfl, flags.writtenAs_toJson⟩
    exact ⟨_, .keep rfl <| .keep rfl <| .keep rfl <| .keep hflags .nil, rfl⟩

/-- A definition may be written with all that is there. -/
theorem Definition.writtenAs_toJson (d : Definition) : d.WrittenAs d.toJson := by
  have hcontext := d.context.writtenAs_toJson
  have hpools : HasItems Role.WrittenAs d.workerPools (.ofItems (d.workerPools.map Role.toJson)) :=
    ⟨_, List.forall₂_map_right_iff.2 (List.forall₂_same.2 fun role _ => role.writtenAs_toJson), rfl⟩
  have hcomponents := Catalog.writtenAs_toJson d.components
  obtain ⟨context, _ | role, pools, components⟩ := d
  · exact ⟨_, .keep hcontext <| .drop rfl <| .keep hpools <| .keep hcomponents .nil, rfl⟩
  · have hrole : ∃ r, some role = some r ∧ r.WrittenAs role.toJson :=
      ⟨role, rfl, role.writtenAs_toJson⟩
    exact ⟨_, .keep hcontext <| .keep hrole <| .keep hpools <| .keep hcomponents .nil, rfl⟩

/-! ### Texts -/

theorem Definition.read_compact {d : Definition} {v : Json} (h : d.WrittenAs v) :
    Definition.read .json v.compact = .ok d := by
  obtain ⟨hplain, hread⟩ := d.readBack v h
  have hchars : Json.read (Json.Comment.strip v.compact.toList) = (v, true) := by
    rw [Json.compact, String.toList_ofList, Json.strip_compactChars hplain,
      Json.read_compactChars hplain]
  unfold Definition.read Definition.readJson
  simp only [hchars, hread, if_true]

/-- A definition is loaded from a file that holds what it may be written as. -/
theorem Definition.load_of_writtenAs {d : Definition} {v : Json} (h : d.WrittenAs v)
    {readFile : String → Except FileError ByteArray} {env : Path.Environment}
    {account : Option String} {path : String}
    (hformat : DefinitionFormat.ofPath (Path.expand env account path) = .ok .json)
    (hfile : readFile (Path.expand env account path) = .ok v.compact.toUTF8) :
    Definition.load readFile env account path = .ok d := by
  have htext : Definition.textOf v.compact.toUTF8 = .ok v.compact := by
    have hvalid : v.compact.toUTF8.IsValidUTF8 := v.compact.isValidUTF8
    rw [Definition.textOf, String.fromUTF8?, dif_pos hvalid]
    rfl
  simp only [Definition.load, hformat, hfile, Except.mapError, bind, Except.bind, htext,
    Definition.read_compact h]

/-- **A stored definition is read back** from the compact text of whatever it may be written as,
although comments are looked for in it. It may be written with all that is there; and a context
written with its version alone is the context of that version with all its defaults. -/
theorem Definition.read_written :
    (∀ (d : Definition) (v : Json), d.WrittenAs v → Definition.read .json v.compact = .ok d) ∧
      (∀ d : Definition, d.WrittenAs d.toJson) ∧
      ∀ version : String,
        let context := Json.ofMembers [("orchestrator-version", .ofText version)]
        Json.reader.context context = .ok { orchestratorVersion := version } ∧
          Definition.read .json (Json.ofMembers [("context", context)]).compact =
            .ok { context := { orchestratorVersion := version } } := by
  refine ⟨fun d v => Definition.read_compact, Definition.writtenAs_toJson, ?_⟩
  intro version context
  have hcontext : Context.WrittenAs { orchestratorVersion := version } context :=
    ⟨_, .keep rfl <| .drop rfl <| .drop rfl <| .drop rfl <| .drop rfl <| .drop rfl <|
      .drop rfl <| .drop rfl <| .drop rfl <| .drop rfl <| .drop rfl <| .drop rfl .nil, rfl⟩
  refine ⟨(Context.readBack _ context hcontext).2, Definition.read_compact ?_⟩
  exact ⟨_, .keep hcontext <| .drop rfl <| .drop rfl <| .drop rfl .nil, rfl⟩

/-- Flags with quotes, backslashes, the marks of comments and a control character in their
values, written in another order; defaults left out, and an empty flag map beside an absent one. -/
theorem Definition.read_written_awkward_texts :
    let value := "say \"// no comment\" /* \\ \x01 */"
    let d : Definition :=
      { context :=
          { orchestratorVersion := " v1.14.0 ", imageBase := "registry//base/"
            kubeletConfig := ⟨[("--a", value), ("--b", "")], by decide⟩ }
        workerPools := [{ name := "Größe /*", kubeletConfig := some {} }, { name := "" }] }
    let v := Json.ofMembers
      [("context", .ofMembers
          [("orchestrator-version", .ofText " v1.14.0 "),
           ("image-base", .ofText "registry//base/"),
           ("kubelet-config", .ofMembers [("--b", .ofText ""), ("--a", .ofText value)])]),
       ("worker-pools", .ofItems
          [.ofMembers [("name", .ofText "Größe /*"), ("kubelet-config", .ofMembers [])],
           .ofMembers [("name", .ofText "")]])]
    d.WrittenAs v ∧ Definition.read .json v.compact = .ok d := by
  intro value d v
  have hflags : d.context.kubeletConfig.WrittenAs
      (.ofMembers [("--b", .ofText ""), ("--a", .ofText value)]) :=
    ⟨[("--b", ""), ("--a", value)], List.Perm.swap _ _ _, rfl⟩
  have hcontext : d.context.WrittenAs (.ofMembers _) :=
    ⟨_, .keep rfl <| .drop rfl <| .keep rfl <| .drop rfl <| .drop rfl <| .drop rfl <|
      .drop rfl <| .drop rfl <| .drop rfl <| .drop rfl <| .drop rfl <| .keep hflags .nil, rfl⟩
  have hpool : Role.WrittenAs { name := "Größe /*", kubeletConfig := some {} } _ :=
    ⟨_, .keep rfl <| .drop rfl <| .drop rfl <| .keep ⟨{}, rfl, [], .nil, rfl⟩ .nil, rfl⟩
  have hunnamed : Role.WrittenAs { name := "" } _ :=
    ⟨_, .keep rfl <| .drop rfl <| .drop rfl <| .drop rfl .nil, rfl⟩
  have hwritten : d.WrittenAs v :=
    ⟨_, .keep hcontext <| .drop rfl <|
      .keep ⟨_, .cons hpool (.cons hunnamed .nil), rfl⟩ <| .drop rfl .nil, rfl⟩
  exact ⟨hwritten, Definition.read_written.1 d v hwritten⟩

end NodeFlags
