import NodeFlags.Proofs.Digits
import NodeFlags.Proofs.Listing
import NodeFlags.Proofs.Pass

/-!
# Catalog entries and minor releases

A catalog is asked for one entry only, the one under the `major.minor` text of the
version. That text is written by the numbers of the version and tells them
(`Version.minorKey_inj`): the dot ends the digits of the first number, and a number has
one numeral. So a version has the answers of its minor release and of no other, and an
entry under any other spelling is never found.

What stands under a key is what was last written there, whatever else was written
(`Catalog.get?_foldl_edit`). A pass makes use of the answer for its version and of
nothing else in the catalog (`Definition.resolveWith_congr`), and the answer becomes the
default of two flags (`DefaultFlags.get?_ofContext_cataloged`). A role runs with these
defaults unless its platform or the operator says something else
(`Plan.get?_resolveFlags_cataloged`).
-/

namespace NodeFlags

/-! ### Keys -/

namespace Version

theorem toList_minorKey (v : Version) :
    v.minorKey.toList = Nat.toDigits 10 v.major ++ '.' :: Nat.toDigits 10 v.minor := by
  simp [minorKey]

/-- **The key of a version tells its first two numbers.** -/
theorem minorKey_inj {v w : Version} :
    v.minorKey = w.minorKey ↔ v.major = w.major ∧ v.minor = w.minor := by
  constructor
  · intro h
    have hdigits : ∀ {m n : Nat}, Nat.toDigits 10 m = Nat.toDigits 10 n → m = n := by
      intro m n hmn
      rw [← Text.digitsValue_toDigits m, hmn, Text.digitsValue_toDigits]
    -- the digits before the dot are the longest run of digits
    have hrun : ∀ u : Version, u.minorKey.toList.takeWhile Text.isDigit = Nat.toDigits 10 u.major ∧
        u.minorKey.toList.dropWhile Text.isDigit = '.' :: Nat.toDigits 10 u.minor :=
      fun u => Text.takeWhile_dropWhile_iff.2 ⟨toList_minorKey u,
        fun _ => Text.isDigit_of_mem_toDigits, Text.stopsAt_cons_iff.2 (by decide)⟩
    obtain ⟨hmajor, hminor⟩ := hrun v
    rw [h, (hrun w).1] at hmajor
    rw [h, (hrun w).2] at hminor
    exact ⟨(hdigits hmajor).symm, (hdigits (List.cons.inj hminor).2).symm⟩
  · rintro ⟨hmajor, hminor⟩
    rw [minorKey, minorKey, hmajor, hminor]

end Version

/-! ### Catalogs -/

namespace Catalog

/-- A change of a catalog. -/
inductive Edit where
  | insert (minor : String) (components : Components)
  | extend (overrides : Catalog)

/-- A catalog after a change. -/
def edit (catalog : Catalog) : Edit → Catalog
  | .insert minor components => Dict.insert catalog minor components
  | .extend overrides => catalog.overlay overrides

/-- What a change writes under a key. -/
def Edit.written? : Edit → String → Option Components
  | .insert minor components, key => if key = minor then some components else none
  | .extend overrides, key => overrides.get? key

/-- What was written last under a key. -/
def lastWritten? (edits : List Edit) (key : String) : Option Components :=
  edits.reverse.findSome? (·.written? key)

theorem get?_edit (catalog : Catalog) (e : Edit) (key : String) :
    (catalog.edit e).get? key = (e.written? key).or (catalog.get? key) := by
  cases e with
  | insert minor components =>
    rw [edit, Dict.get?_insert, Edit.written?]
    split <;> rfl
  | extend overrides => exact Dict.get?_overlay catalog overrides key

/-- **Under a key stands what was last written there.** -/
theorem get?_foldl_edit (catalog : Catalog) (edits : List Edit) (key : String) :
    (edits.foldl edit catalog).get? key = (lastWritten? edits key).or (catalog.get? key) := by
  induction edits generalizing catalog with
  | nil => rfl
  | cons e rest ih =>
    rw [List.foldl_cons, ih, get?_edit, ← Option.or_assoc, lastWritten?, lastWritten?,
      List.reverse_cons, List.findSome?_append]
    simp

theorem lookup?_of_read? {version : String} {v : Version} (h : Version.read? version = some v)
    (catalog : Catalog) : catalog.lookup? version = catalog.get? v.minorKey := by
  rw [lookup?, minorKey?, h]
  rfl

theorem lookup?_overlay (catalog overrides : Catalog) (version : String) :
    lookup? (catalog.overlay overrides) version =
      (overrides.lookup? version).or (catalog.lookup? version) := by
  unfold lookup?
  cases minorKey? version with
  | none => rfl
  | some key => exact Dict.get?_overlay catalog overrides key

theorem lookup?_foldl_edit {version : String} {v : Version} (h : Version.read? version = some v)
    (catalog : Catalog) (edits : List Edit) :
    lookup? (edits.foldl edit catalog) version =
      (lastWritten? edits v.minorKey).or (catalog.get? v.minorKey) := by
  rw [lookup?_of_read? h, get?_foldl_edit]

/-- **Versions that no catalog tells apart** are those of one minor release. -/
theorem forall_lookup?_eq_iff {a b : String} {v w : Version} (ha : Version.read? a = some v)
    (hb : Version.read? b = some w) :
    (∀ catalog : Catalog, catalog.lookup? a = catalog.lookup? b) ↔
      v.major = w.major ∧ v.minor = w.minor := by
  rw [← Version.minorKey_inj]
  constructor
  · intro hall
    -- a catalog with an entry for the one version alone
    have hone := hall (Dict.insert {} v.minorKey ⟨"", ""⟩)
    rw [lookup?_of_read? ha, lookup?_of_read? hb, Dict.get?_insert, Dict.get?_insert,
      if_pos rfl] at hone
    by_contra hne
    rw [if_neg (Ne.symm hne)] at hone
    cases hone
  · intro hkey catalog
    rw [lookup?_of_read? ha, lookup?_of_read? hb, hkey]

end Catalog

/-! ### Passes -/

/-- A flag from the catalog reaches a role if nothing stands above it. -/
theorem Plan.get?_resolveFlags_cataloged {ctx : Context} (role : Role) {name : String}
    (h : name ∈ DefaultFlags.cataloged)
    (hstatic : (StaticFlags.ofContext ctx role.osFamily).get? name = none)
    (hrole : role.flags.get? name = none) (hcluster : ctx.kubeletConfig.get? name = none)
    (catalog : Catalog) (kind : RoleKind) :
    ((ofContext ctx catalog).resolveFlags role kind).get? name =
      FlagMap.swept ((DefaultFlags.ofContext ctx catalog).get? name) := by
  have hname : ∀ n ∈ DefaultFlags.cataloged, n ≠ Flag.featureGates ∧ n ≠ Flag.podMaxPids ∧
      n ≠ Flag.cadvisorPort ∧ n ≠ Flag.allowPrivileged := by decide
  obtain ⟨hgates, hpids, hport, hprivileged⟩ := hname name h
  have haccepts : FlagMap.accepts ctx.orchestratorVersion name = true :=
    FlagMap.accepts_iff.2
      ⟨fun heq => absurd heq hpids, fun heq => absurd heq hport, fun heq => absurd heq hprivileged⟩
  rw [get?_resolveFlags ctx catalog role kind hgates hpids, if_pos haccepts,
    Role.layeredValue_eq_or hstatic, hrole, Context.sharedValue, hcluster, Option.none_or,
    Option.none_or]

namespace Definition

/-- A pass asks its catalog for one version. -/
theorem resolveWith_congr (d : Definition) {catalog catalog' : Catalog}
    (h : catalog.lookup? d.context.orchestratorVersion =
      catalog'.lookup? d.context.orchestratorVersion) :
    d.resolveWith catalog = d.resolveWith catalog' := by
  have hdefaults : DefaultFlags.ofContext d.context catalog =
      DefaultFlags.ofContext d.context catalog' := by
    unfold DefaultFlags.ofContext
    rw [h]
  have hplan : Plan.ofContext d.context catalog = Plan.ofContext d.context catalog' := by
    unfold Plan.ofContext
    rw [hdefaults]
  unfold resolveWith
  rw [hplan]

/-- A cluster with other catalog entries of its own. -/
def withComponents (d : Definition) (components : Dict Components) : Definition :=
  { d with components }

/-- Entries of a cluster under other keys than that of its version make no difference. -/
theorem resolve_with_components {d : Definition} {components : Dict Components}
    (h : ∀ key, minorKey? d.context.orchestratorVersion = some key →
      components.get? key = d.components.get? key) :
    (d.withComponents components).resolve = d.resolve.withComponents components := by
  have hown : Catalog.lookup? components d.context.orchestratorVersion =
      Catalog.lookup? d.components d.context.orchestratorVersion := by
    unfold Catalog.lookup?
    cases hkey : minorKey? d.context.orchestratorVersion with
    | none => rfl
    | some key => exact h key hkey
  have hanswer : Catalog.lookup? (Catalog.builtin.overlay components)
      d.context.orchestratorVersion = d.catalog.lookup? d.context.orchestratorVersion := by
    rw [catalog, Catalog.lookup?_overlay, Catalog.lookup?_overlay, hown]
  show (d.resolveWith (Catalog.builtin.overlay components)).withComponents components = _
  rw [d.resolveWith_congr hanswer]
  rfl

end Definition

/-- **A catalog matters only where the minor release of the version stands.** Whatever is written
into a catalog, in whatever order, the answer for a version is what was written last under the
decimal text of its first two numbers, and a text that is no version has none. Versions have the
same answers from every catalog just if these numbers are the same. In the catalog of a cluster the
cluster's own entry takes the place of the known one, a pass depends on nothing else in the
catalog, and so other entries of the cluster change nothing. -/
theorem Catalog.only_minor_release_matters (catalog : Catalog) (edits : List Catalog.Edit)
    (a b : String) (d : Definition) (components : Dict Components) :
    -- the answer of a catalog
    ((edits.foldl Catalog.edit catalog).lookup? a =
      match Version.read? a with
      | some v =>
        (Catalog.lastWritten? edits (toString v.major ++ "." ++ toString v.minor)).or
          (catalog.get? (toString v.major ++ "." ++ toString v.minor))
      | none => none) ∧
    (∀ (overrides : Catalog) (listing : List (String × Components)), listing.Perm overrides.entries →
      listing.foldl (fun acc e => Dict.insert acc e.1 e.2) catalog =
        catalog.edit (.extend overrides)) ∧
    -- versions that are answered alike
    (∀ v w, Version.read? a = some v → Version.read? b = some w →
      ((∀ asked : Catalog, asked.lookup? a = asked.lookup? b) ↔
        v.major = w.major ∧ v.minor = w.minor)) ∧
    -- the catalog of a cluster
    (d.catalog.lookup? a = (Catalog.lookup? d.components a).or (Catalog.builtin.lookup? a)) ∧
    (∀ other : Catalog,
      other.lookup? d.context.orchestratorVersion =
        d.catalog.lookup? d.context.orchestratorVersion → d.resolveWith other = d.resolve) ∧
    ((∀ key, minorKey? d.context.orchestratorVersion = some key →
        components.get? key = d.components.get? key) →
      (d.withComponents components).resolve = d.resolve.withComponents components) := by
  refine ⟨?_, fun _ _ hperm => Dict.foldl_insert_of_perm hperm catalog,
    fun _ _ => Catalog.forall_lookup?_eq_iff, Catalog.lookup?_overlay _ _ a,
    fun _ => d.resolveWith_congr, Definition.resolve_with_components⟩
  cases hread : Version.read? a with
  | none => rw [Catalog.lookup?, minorKey?, hread, Option.map_none, Option.bind_none]
  | some v => exact Catalog.lookup?_foldl_edit hread catalog edits

/-- An entry of the cluster's own for its version, which its pool runs with, others under odd
spellings, and a version with a pre-release and blanks around it. -/
theorem Catalog.only_minor_release_matters_odd_keys :
    let own : Components := ⟨"pause:custom", "1m"⟩
    let d : Definition :=
      { context := { orchestratorVersion := " v1.14.0-rc.1\n" }
        workerPools := [{ name := "pool" }]
        components := .ofList [("1.14", own)] }
    let odd : Dict Components :=
      .ofList [("01.14", ⟨"a", "b"⟩), ("1.14", own), ("1.14.0", ⟨"c", "d"⟩), ("11.4", ⟨"e", "f"⟩)]
    let edits : List Catalog.Edit := [.insert "1.14" ⟨"p", "q"⟩, .extend odd, .insert "11.4" own]
    (edits.foldl Catalog.edit {}).lookup? " v1.14.0-rc.1\n" = some own ∧
      odd.entries.reverse.foldl (fun acc e => Dict.insert acc e.1 e.2) {} =
        Catalog.edit {} (.extend odd) ∧
      (∀ asked : Catalog, asked.lookup? " v1.14.0-rc.1\n" = asked.lookup? "1.14.9") ∧
      ¬ (∀ asked : Catalog, asked.lookup? "1.11.0" = asked.lookup? "11.1.0") ∧
      d.catalog.lookup? "1.14.9" = some own ∧
      d.resolveWith (.ofList [("1.14", own)]) = d.resolve ∧
      minorKey? " v1.14.0-rc.1\n" = some "1.14" ∧ odd.get? "1.14" = d.components.get? "1.14" ∧
      (d.withComponents odd).resolve.workerPools = d.resolve.workerPools ∧
      -- the entry is the default of two flags, and the pool gets it
      (DefaultFlags.ofContext d.context d.catalog).get? Flag.podInfraContainerImage =
        some "k8s.gcr.io/pause:custom" ∧
      (DefaultFlags.ofContext d.context d.catalog).get? Flag.nodeStatusUpdateFrequency =
        some "1m" ∧
      d.resolve.workerPools.map (·.flags.get? Flag.podInfraContainerImage) =
        [some "k8s.gcr.io/pause:custom"] ∧
      d.resolve.workerPools.map (·.flags.get? Flag.nodeStatusUpdateFrequency) = [some "1m"] := by
  intro own d odd edits
  have hrc : Version.read? " v1.14.0-rc.1\n" =
      some ⟨1, 14, 0, [.word "rc", .numeric 1 0], []⟩ := by decide +kernel
  have hpatch : Version.read? "1.14.9" = some ⟨1, 14, 9, [], []⟩ := by decide +kernel
  have heleven : Version.read? "1.11.0" = some ⟨1, 11, 0, [], []⟩ := by decide +kernel
  have hone : Version.read? "11.1.0" = some ⟨11, 1, 0, [], []⟩ := by decide +kernel
  have hkey : minorKey? " v1.14.0-rc.1\n" = some "1.14" := by decide +kernel
  have hentry : odd.get? "1.14" = d.components.get? "1.14" := by decide +kernel
  obtain ⟨hedited, hlisting, halike, -, hother, hcomponents⟩ :=
    Catalog.only_minor_release_matters {} edits " v1.14.0-rc.1\n" "1.14.9" d odd
  obtain ⟨-, -, hunlike, -⟩ := Catalog.only_minor_release_matters {} [] "1.11.0" "11.1.0" d odd
  obtain ⟨-, -, -, hown, -⟩ := Catalog.only_minor_release_matters {} [] "1.14.9" "" d odd
  obtain ⟨-, -, -, hanswer, -⟩ :=
    Catalog.only_minor_release_matters {} [] d.context.orchestratorVersion "" d odd
  obtain ⟨himage, hfrequency⟩ := DefaultFlags.get?_ofContext_cataloged d.context d.catalog
  have hfound : d.catalog.lookup? d.context.orchestratorVersion = some own :=
    hanswer.trans (by decide +kernel)
  rw [hfound] at himage hfrequency
  have hpool : ∀ name ∈ DefaultFlags.cataloged,
      d.resolve.workerPools.map (·.flags.get? name) =
        [FlagMap.swept ((DefaultFlags.ofContext d.context d.catalog).get? name)] := by
    intro name hname
    have hstatic : ∀ n ∈ DefaultFlags.cataloged,
        (StaticFlags.ofContext d.context .linux).get? n = none := by decide +kernel
    exact congrArg (fun value => [value]) <|
      Plan.get?_resolveFlags_cataloged { name := "pool" } hname (hstatic name hname) rfl rfl
        d.catalog .workerPool
  have hsame : (d.withComponents odd).resolve = d.resolve.withComponents odd :=
    hcomponents fun key h => Option.some.inj (hkey.symm.trans h) ▸ hentry
  refine ⟨hedited.trans ?_, hlisting odd _ (List.reverse_perm _),
    (halike _ _ hrc hpatch).2 ⟨rfl, rfl⟩, fun h => ?_, hown.trans ?_, hother _ ?_, hkey, hentry, ?_,
    himage, hfrequency, ?_, ?_⟩
  · rw [hrc]
    decide +kernel
  · exact absurd ((hunlike _ _ heleven hone).1 h).1 (by decide)
  · decide +kernel
  · decide +kernel
  · rw [hsame]
    rfl
  · rw [hpool _ (by decide), himage]
    decide +kernel
  · rw [hpool _ (by decide), hfrequency]
    decide +kernel

end NodeFlags
