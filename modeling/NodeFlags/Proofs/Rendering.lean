import NodeFlags.Flag.Fingerprint
import NodeFlags.Proofs.Listing
import NodeFlags.Proofs.Utf8Order

/-!
# Flag maps as lines of text

The line of a flag map, and with it the fingerprint, tells which flags the map holds and
nothing of how it came to hold them. How it did is a `History`: pairs collected into a
map, which is then changed flag by flag, thinned out or filled up from another map.
What a history leaves under a name can be said name by name (`History.value?`), and that
is what the map holds (`History.get?_flags`).

The line can also be read back, as long as its tokens can be told apart
(`FlagMap.Separable`): blanks end the tokens, and the first equals sign of a token ends
the name (`FlagMap.readLine_render`). Such maps have one line only if they are equal, so
every change of a flag shows.
-/

namespace NodeFlags.FlagMap

/-! ### Histories -/

/-- How a flag map came about. -/
inductive History where
  /-- Pairs collected into a map; none for an empty one. -/
  | collect (pairs : List (String × String))
  | set (before : History) (name value : String)
  | setIfAbsent (before : History) (name value : String)
  | remove (before : History) (name : String)
  | retain (before : History) (keep : String → String → Bool)
  /-- The flags that are missing are taken from another map. -/
  | fill (before source : History)

namespace History

/-- The flag map at the end of a history. -/
def flags : History → FlagMap
  | collect pairs => .ofList pairs
  | set before name value => before.flags.insert name value
  | setIfAbsent before name value => before.flags.insertIfAbsent name value
  | remove before name => before.flags.erase name
  | retain before keep => before.flags.filter keep
  | fill before source => (before.flags.fill source.flags).1

/-- The value that a history leaves under a name. -/
def value? : History → String → Option String
  | collect pairs, k => pairs.reverse.lookup k
  | set before name value, k => if k = name then some value else before.value? k
  | setIfAbsent before name value, k =>
    if k = name then some ((before.value? name).getD value) else before.value? k
  | remove before name, k => if k = name then none else before.value? k
  | retain before keep, k => (before.value? k).filter (keep k)
  | fill before source, k => (before.value? k).or (source.value? k)

/-- **A map holds what its history leaves.** -/
theorem get?_flags (h : History) (k : String) : h.flags.get? k = h.value? k := by
  induction h generalizing k with
  | collect pairs => exact Dict.get?_ofList pairs k
  | set before name value ih => rw [flags, value?, Dict.get?_insert, ih]
  | setIfAbsent before name value ih =>
    rw [flags, value?, Dict.get?_insertIfAbsent, ih, ih]
  | remove before name ih => rw [flags, value?, Dict.get?_erase, ih]
  | retain before keep ih => rw [flags, value?, Dict.get?_filter, ih]
  | fill before source ihBefore ihSource => rw [flags, value?, Dict.get?_fill, ihBefore, ihSource]

end History

/-! ### Lines -/

/-- Flags whose tokens can be told apart: no blank in a name or a value, and no equals sign in a
name. -/
def Separable (flags : FlagMap) : Prop :=
  ∀ name value, flags.get? name = some value →
    ' ' ∉ name.toList ∧ '=' ∉ name.toList ∧ ' ' ∉ value.toList

theorem separable_iff {flags : FlagMap} :
    flags.Separable ↔
      ∀ e ∈ flags.entries, ' ' ∉ e.1.toList ∧ '=' ∉ e.1.toList ∧ ' ' ∉ e.2.toList :=
  ⟨fun h e he => h e.1 e.2 (Dict.mem_entries_iff.1 he),
    fun h name value hvalue => h (name, value) (Dict.mem_entries_iff.2 hvalue)⟩

instance (flags : FlagMap) : Decidable flags.Separable :=
  decidable_of_iff _ separable_iff.symm

/-- A token taken apart at its first equals sign. -/
def readToken (cs : List Char) : String × String :=
  (.ofList (cs.takeWhile (· ≠ '=')), .ofList (cs.dropWhile (· ≠ '=')).tail)

/-- The names and values that a line states. -/
def readLine (line : String) : List (String × String) :=
  if line = "" then [] else (line.toList.splitOn ' ').map readToken

theorem toList_token (e : String × String) :
    (token e).toList = e.1.toList ++ '=' :: e.2.toList := by
  simp [token]

theorem readToken_token {e : String × String} (h : '=' ∉ e.1.toList) :
    readToken (token e).toList = e := by
  have hname : ∀ c ∈ e.1.toList, decide (c ≠ '=') = true :=
    fun c hc => decide_eq_true fun heq => h (heq ▸ hc)
  rw [readToken, toList_token, List.takeWhile_append_of_pos hname,
    List.dropWhile_append_of_pos hname]
  simp

theorem Separable.blank_not_mem_token {flags : FlagMap} (h : flags.Separable) {e : String × String}
    (he : e ∈ flags.entries) : ' ' ∉ (token e).toList := by
  obtain ⟨hname, -, hvalue⟩ := separable_iff.1 h e he
  simp [toList_token, hname, hvalue]

/-- **A line is read back as the flags it was written for**, in their order. -/
theorem readLine_render {flags : FlagMap} (h : flags.Separable) :
    readLine flags.render = flags.entries := by
  by_cases hnil : flags.entries = []
  · rw [render, hnil]
    rfl
  · have hsplit : flags.render.toList.splitOn ' ' =
        flags.entries.map fun e => (token e).toList := by
      rw [render, String.toList_intercalate, List.map_map]
      refine List.splitOn_intercalate ' ' (fun cs hcs => ?_) (by simpa using hnil)
      obtain ⟨e, he, rfl⟩ := List.mem_map.1 hcs
      exact h.blank_not_mem_token he
    have hne : flags.render ≠ "" := by
      intro hempty
      -- the only token would be empty, but every token has an equals sign
      rw [hempty] at hsplit
      have hmem : [] ∈ flags.entries.map fun e => (token e).toList := by
        rw [← hsplit]
        exact List.mem_singleton_self _
      obtain ⟨e, -, he⟩ := List.mem_map.1 hmem
      simp [toList_token] at he
    rw [readLine, if_neg hne, hsplit, List.map_map]
    calc flags.entries.map (readToken ∘ fun e => (token e).toList)
        = flags.entries.map id := List.map_congr_left fun e he =>
          readToken_token (separable_iff.1 h e he).2.1
      _ = flags.entries := List.map_id _

/-- Maps whose tokens can be told apart have one line only if they are equal. -/
theorem Separable.eq_of_render_eq {a b : FlagMap} (ha : a.Separable) (hb : b.Separable)
    (h : a.render = b.render) : a = b := by
  apply Dict.ext_entries
  rw [← readLine_render ha, ← readLine_render hb, h]

/-- **The line of a flag map is canonical and shows every change.** Whatever the history of the
map, its listing has each flag that is left once, with its value, in the order of the bytes of the
names, and is what any other listing becomes when it is sorted. Maps that agree on every name have
one line and one fingerprint, and maps whose tokens can be told apart have one line only if they
are equal. -/
theorem render_canonical_and_faithful (h h' : History) (a b : FlagMap) :
    -- the listing
    (∀ name value, (name, value) ∈ h.flags.entries ↔ h.value? name = some value) ∧
    h.flags.keys.Nodup ∧
    (h.flags.entries.Pairwise fun e f => Text.bytes e.1 < Text.bytes f.1) ∧
    (∀ listing, listing.Perm h.flags.entries →
      (listing.Pairwise fun e f => Text.bytes e.1 ≤ Text.bytes f.1) → listing = h.flags.entries) ∧
    -- one line for one map
    ((∀ name, h.flags.get? name = h'.flags.get? name) →
      h.flags.render = h'.flags.render ∧ h.flags.fingerprint = h'.flags.fingerprint) ∧
    -- and one map for one line
    (a.Separable → b.Separable → a.render = b.render → a = b) := by
  refine ⟨fun name value => ?_, Dict.nodup_keys _, ?_, fun listing hperm hsorted => ?_,
    fun hsame => ?_, Separable.eq_of_render_eq⟩
  · rw [Dict.mem_entries_iff, History.get?_flags]
  · exact h.flags.ascending.imp Text.bytes_lt_bytes_iff.2
  · exact Dict.eq_entries_of_perm_of_sorted hperm (hsorted.imp Text.bytes_le_bytes_iff.1)
  · have heq : h.flags = h'.flags := Dict.ext_get? hsame
    rw [heq]
    exact ⟨rfl, rfl⟩

/-- Two flags reached by filling a gap and by dropping what is too much, and a change of one of
them. -/
theorem render_canonical_and_faithful_two_ways :
    let filled : History :=
      .fill (.setIfAbsent (.set (.collect []) "--é" "2") "--é" "3")
        (.collect [("--a", "0"), ("--é", "4"), ("--a", "x=1")])
    let thinned : History :=
      .retain (.remove (.collect [("--é", "2"), ("--c", "7"), ("--a", "x=1"), ("--d", "")]) "--c")
        fun _ value => value != ""
    let changed := (filled.set "--a" "x").flags
    (∀ name, filled.flags.get? name = thinned.flags.get? name) ∧
      filled.flags.render = thinned.flags.render ∧
      filled.flags.fingerprint = thinned.flags.fingerprint ∧
      [("--a", "x=1"), ("--é", "2")].Perm filled.flags.entries ∧
      [("--a", "x=1"), ("--é", "2")] = filled.flags.entries ∧
      filled.flags.Separable ∧ changed.Separable ∧ changed.render ≠ filled.flags.render := by
  intro filled thinned changed
  have hsame : filled.flags = thinned.flags := by decide +kernel
  have hperm : [("--a", "x=1"), ("--é", "2")].Perm filled.flags.entries := by decide +kernel
  have hsorted : [("--a", "x=1"), ("--é", "2")].Pairwise
      fun e f => Text.bytes e.1 ≤ Text.bytes f.1 := by decide +kernel
  have hfilled : filled.flags.Separable := by decide +kernel
  have hchanged : changed.Separable := by decide +kernel
  obtain ⟨-, -, -, hlisting, hcanonical, hfaithful⟩ :=
    render_canonical_and_faithful filled thinned changed filled.flags
  obtain ⟨hline, hdigest⟩ := hcanonical fun name => by rw [hsame]
  refine ⟨fun name => by rw [hsame], hline, hdigest, hperm, hlisting _ hperm hsorted, hfilled,
    hchanged, fun hrender => ?_⟩
  exact absurd (hfaithful hchanged hfilled hrender) (by decide +kernel)

end NodeFlags.FlagMap
