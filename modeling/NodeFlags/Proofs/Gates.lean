import Mathlib.Data.List.DropRight
import NodeFlags.Flag.Gates

/-!
# Feature gates and their joined form

A flag map holds its gates as one text, the entries joined by commas. Taking a text
apart drops blank segments and trims the others, so an operator's text need not be
the one that is written back. From then on nothing is lost: the entries that come
out are *plain* (not empty, without commas, without blanks at their ends), and plain
entries survive being joined and taken apart again.

## What is proved

* `GateSet.parse_render` — a set of plain entries, joined and taken apart, is the
  set itself.
* `GateSet.prefix_insertAll`, `GateSet.insertAll_of_subset` — gates are only ever
  appended, and gates that are all there change nothing.
* `GateSet.entries_insertAll_of_nodup`, `GateSet.nodup_entries_insertAll_iff` — what is
  appended are the missing entries in their order, and none of them comes to stand twice.
* `FlagMap.get?_addGates` — adding gates changes the flag of the gates alone, and
  writes the old entries followed by the missing ones; without gates to add the text
  stays as it was written.
* `FlagMap.gates_survive_storing_and_adding` — gates are read back as they were stored, and
  one gate is added at the end or not at all.
-/

namespace NodeFlags

/-! ### Trimming -/

namespace Text

theorem trimChars_sublist (cs : List Char) : (trimChars cs).Sublist cs :=
  (List.rdropWhile_prefix isBlank (trimLeft cs)).sublist.trans (List.dropWhile_sublist isBlank)

/-- What is left by `trimLeft` does not begin with a blank, and neither does a beginning of it. -/
theorem trimLeft_of_prefix {cs t : List Char} (h : t <+: trimLeft cs) : trimLeft t = t := by
  refine List.dropWhile_eq_self_iff.2 fun ht => ?_
  have hcs : (trimLeft cs).dropWhile isBlank = trimLeft cs :=
    List.dropWhile_idempotent isBlank cs
  rw [h.getElem ht]
  exact List.dropWhile_eq_self_iff.1 hcs (Nat.lt_of_lt_of_le ht h.length_le)

theorem trimChars_trimChars (cs : List Char) : trimChars (trimChars cs) = trimChars cs := by
  have hleft : trimLeft (trimChars cs) = trimChars cs :=
    trimLeft_of_prefix (List.rdropWhile_prefix isBlank (trimLeft cs))
  calc trimChars (trimChars cs) = trimRight (trimChars cs) := by rw [trimChars, hleft]
    _ = trimChars cs := List.rdropWhile_idempotent isBlank (trimLeft cs)

end Text

namespace GateSet

/-! ### Plain entries -/

/-- An entry that the joined form keeps as it is. -/
structure PlainEntry (entry : String) : Prop where
  ne_empty : entry ≠ ""
  no_comma : ',' ∉ entry.toList
  trimmed : Text.trim entry = entry

theorem plainEntry_iff {entry : String} :
    PlainEntry entry ↔ entry ≠ "" ∧ ',' ∉ entry.toList ∧ Text.trim entry = entry :=
  ⟨fun h => ⟨h.ne_empty, h.no_comma, h.trimmed⟩, fun ⟨hne, hcomma, htrim⟩ => ⟨hne, hcomma, htrim⟩⟩

instance (entry : String) : Decidable (PlainEntry entry) :=
  decidable_of_iff _ plainEntry_iff.symm

/-- A set of plain entries. -/
def Plain (gates : GateSet) : Prop := ∀ entry ∈ gates.entries, PlainEntry entry

/-- No piece of a split contains the character at which it was split. -/
theorem not_mem_of_mem_splitOn {x : Char} :
    ∀ {cs piece : List Char}, piece ∈ cs.splitOn x → x ∉ piece
  | [], piece, h => by
    rw [List.splitOn_nil, List.mem_singleton] at h
    simp [h]
  | c :: cs, piece, h => by
    rw [List.splitOn_cons_eq_if_modifyHead] at h
    split at h
    · rcases List.mem_cons.1 h with rfl | h
      · simp
      · exact not_mem_of_mem_splitOn h
    · rename_i hc
      obtain ⟨first, others, hsplit⟩ := List.exists_cons_of_ne_nil (List.splitOn_ne_nil x cs)
      rw [hsplit, List.modifyHead_cons] at h
      rcases List.mem_cons.1 h with rfl | h
      · have hfirst := not_mem_of_mem_splitOn (hsplit ▸ List.mem_cons_self : first ∈ cs.splitOn x)
        simp only [beq_iff_eq] at hc
        simp [hfirst, Ne.symm hc]
      · exact not_mem_of_mem_splitOn (hsplit ▸ List.mem_cons_of_mem _ h)

theorem plain_parse (composite : String) : (parse composite).Plain := by
  intro entry h
  obtain ⟨segment, hsegment, rfl⟩ := List.mem_map.1 h
  obtain ⟨hmem, hne⟩ := List.mem_filter.1 hsegment
  obtain ⟨piece, hpiece, rfl⟩ := List.mem_map.1 hmem
  refine ⟨?_, ?_, ?_⟩
  · simpa using hne
  · rw [String.toList_ofList]
    exact fun hc => not_mem_of_mem_splitOn hpiece ((Text.trimChars_sublist piece).mem hc)
  · rw [Text.trim, String.toList_ofList, Text.trimChars_trimChars]

/-- Segments that are trimmed, not empty and without commas are what joining them is taken apart
into. -/
theorem segments_intercalate {ls : List (List Char)}
    (h : ∀ l ∈ ls, l ≠ [] ∧ ',' ∉ l ∧ Text.trimChars l = l) :
    segments ([','].intercalate ls) = ls := by
  by_cases hls : ls = []
  · subst hls; rfl
  unfold segments
  rw [List.splitOn_intercalate ',' (fun l hl => (h l hl).2.1) hls,
    List.map_congr_left (fun l hl => (h l hl).2.2), List.map_id',
    List.filter_eq_self.2 fun l hl => by simpa using (h l hl).1]

/-- **Plain entries survive the joined form.** -/
theorem parse_render {gates : GateSet} (h : gates.Plain) : parse gates.render = gates := by
  have hsegments : segments gates.render.toList = gates.entries.map String.toList := by
    rw [render, String.toList_intercalate]
    refine segments_intercalate fun l hl => ?_
    obtain ⟨entry, hentry, rfl⟩ := List.mem_map.1 hl
    obtain ⟨hne, hcomma, htrim⟩ := h entry hentry
    refine ⟨by simpa using hne, hcomma, ?_⟩
    rw [← htrim, Text.trim, String.toList_ofList, Text.trimChars_trimChars]
  unfold parse
  rw [hsegments, List.map_map]
  simp [Function.comp_def]

/-! ### Appending entries -/

/-- Append the entries that are not there yet, one after another. -/
def insertAll (gates : GateSet) (entries : List String) : GateSet :=
  entries.foldl insert gates

theorem insertAll_append (gates : GateSet) (first second : List String) :
    gates.insertAll (first ++ second) = (gates.insertAll first).insertAll second :=
  List.foldl_append

theorem contains_iff {gates : GateSet} {entry : String} :
    gates.contains entry = true ↔ entry ∈ gates.entries :=
  List.contains_iff_mem

theorem entries_insert (gates : GateSet) (entry : String) :
    (gates.insert entry).entries =
      if entry ∈ gates.entries then gates.entries else gates.entries ++ [entry] := by
  unfold insert
  by_cases h : entry ∈ gates.entries
  · rw [if_pos (contains_iff.2 h), if_pos h]
  · rw [if_neg (mt contains_iff.1 h), if_neg h]

theorem mem_insert {gates : GateSet} {entry e : String} :
    e ∈ (gates.insert entry).entries ↔ e ∈ gates.entries ∨ e = entry := by
  rw [entries_insert]
  split
  · rename_i h
    exact ⟨.inl, fun he => he.elim id fun heq => heq ▸ h⟩
  · simp

theorem insert_of_mem {gates : GateSet} {entry : String} (h : entry ∈ gates.entries) :
    gates.insert entry = gates :=
  if_pos (contains_iff.2 h)

theorem prefix_insert (gates : GateSet) (entry : String) :
    gates.entries <+: (gates.insert entry).entries := by
  rw [entries_insert]
  split
  · exact List.prefix_refl _
  · exact List.prefix_append _ _

theorem Plain.insert {gates : GateSet} {entry : String} (h : gates.Plain) (he : PlainEntry entry) :
    (gates.insert entry).Plain :=
  fun e hmem => (mem_insert.1 hmem).elim (h e) fun heq => heq ▸ he

theorem isEmpty_insert (gates : GateSet) (entry : String) :
    (gates.insert entry).isEmpty = false := by
  have : entry ∈ (gates.insert entry).entries := mem_insert.2 (.inr rfl)
  rw [isEmpty, List.isEmpty_eq_false_iff]
  exact List.ne_nil_of_mem this

theorem mem_insertAll {gates : GateSet} {entries : List String} {e : String} :
    e ∈ (gates.insertAll entries).entries ↔ e ∈ gates.entries ∨ e ∈ entries := by
  induction entries generalizing gates with
  | nil => simp [insertAll]
  | cons entry rest ih =>
    rw [insertAll, List.foldl_cons, ← insertAll, ih, mem_insert, List.mem_cons, or_assoc]

theorem prefix_insertAll (gates : GateSet) (entries : List String) :
    gates.entries <+: (gates.insertAll entries).entries := by
  induction entries generalizing gates with
  | nil => exact List.prefix_refl _
  | cons entry rest ih => exact (prefix_insert gates entry).trans (ih (gates.insert entry))

/-- Entries that are all there change nothing. -/
theorem insertAll_of_subset {gates : GateSet} {entries : List String}
    (h : ∀ e ∈ entries, e ∈ gates.entries) : gates.insertAll entries = gates := by
  induction entries with
  | nil => rfl
  | cons entry rest ih =>
    rw [insertAll, List.foldl_cons, insert_of_mem (h entry List.mem_cons_self)]
    exact ih fun e he => h e (List.mem_cons_of_mem _ he)

theorem insertAll_insertAll (gates : GateSet) (entries : List String) :
    (gates.insertAll entries).insertAll entries = gates.insertAll entries :=
  insertAll_of_subset fun _ he => mem_insertAll.2 (.inr he)

theorem Plain.insertAll {gates : GateSet} {entries : List String} (h : gates.Plain)
    (he : ∀ e ∈ entries, PlainEntry e) : (gates.insertAll entries).Plain :=
  fun e hmem => (mem_insertAll.1 hmem).elim (h e) (he e)

/-- Entries that differ from one another are appended in their order, but for those that are there. -/
theorem entries_insertAll_of_nodup {gates : GateSet} {entries : List String} (h : entries.Nodup) :
    (gates.insertAll entries).entries =
      gates.entries ++ entries.filter fun e => e ∉ gates.entries := by
  induction entries generalizing gates with
  | nil => exact (List.append_nil _).symm
  | cons entry rest ih =>
    obtain ⟨hentry, hrest⟩ := List.nodup_cons.1 h
    rw [insertAll, List.foldl_cons, ← insertAll, ih hrest, entries_insert]
    by_cases hmem : entry ∈ gates.entries
    · rw [if_pos hmem, List.filter_cons_of_neg (by simpa using hmem)]
    · -- what comes after the appended entry differs from it, so it is missing as before
      have hsame : ∀ e ∈ rest, (e ∉ gates.entries ++ [entry]) ↔ e ∉ gates.entries := by
        intro e he
        have hne : e ≠ entry := fun heq => hentry (heq ▸ he)
        simp [hne]
      rw [if_neg hmem, List.filter_cons_of_pos (by simpa using hmem), List.append_assoc,
        List.singleton_append, List.filter_congr fun e he => decide_eq_decide.2 (hsame e he)]

theorem nodup_entries_insert_iff {gates : GateSet} {entry : String} :
    (gates.insert entry).entries.Nodup ↔ gates.entries.Nodup := by
  rw [entries_insert]
  split
  · rfl
  · rename_i h
    rw [(List.perm_append_singleton entry gates.entries).nodup_iff, List.nodup_cons]
    exact and_iff_right h

/-- Appending makes no entry stand twice. -/
theorem nodup_entries_insertAll_iff {gates : GateSet} {entries : List String} :
    (gates.insertAll entries).entries.Nodup ↔ gates.entries.Nodup := by
  induction entries generalizing gates with
  | nil => rfl
  | cons entry rest ih =>
    rw [insertAll, List.foldl_cons, ← insertAll, ih, nodup_entries_insert_iff]

/-! ### Gates as the value of a flag -/

/-- The gates that a flag value states; none if there is no value. -/
def ofValue (value : Option String) : GateSet :=
  (value.map parse).getD {}

/-- A flag value after entries were appended to the gates it states. Without entries to append the
value stays as it was written. -/
def extend (value : Option String) : List String → Option String
  | [] => value
  | entry :: rest => some ((ofValue value).insertAll (entry :: rest)).render

theorem ofFlags_eq_ofValue (flags : FlagMap) :
    ofFlags flags = ofValue (flags.get? Flag.featureGates) := rfl

theorem plain_ofValue : ∀ value : Option String, (ofValue value).Plain
  | none => fun _ h => absurd h List.not_mem_nil
  | some composite => plain_parse composite

theorem ofValue_extend (value : Option String) {entries : List String}
    (he : ∀ e ∈ entries, PlainEntry e) :
    ofValue (extend value entries) = (ofValue value).insertAll entries := by
  cases entries with
  | nil => rfl
  | cons entry rest => exact parse_render ((plain_ofValue value).insertAll he)

/-- Entries that were appended before need not be appended again: of two rounds the second alone
decides, down to the text, if it begins with the first. -/
theorem extend_extend_append (value : Option String) {first : List String}
    (he : ∀ e ∈ first, PlainEntry e) (second : List String) :
    extend (extend value first) (first ++ second) = extend value (first ++ second) := by
  cases first with
  | nil => rfl
  | cons entry rest =>
    have hsame : ((ofValue value).insertAll (entry :: rest)).insertAll (entry :: rest ++ second) =
        (ofValue value).insertAll (entry :: rest ++ second) := by
      rw [insertAll_append, insertAll_insertAll, ← insertAll_append]
    calc extend (extend value (entry :: rest)) (entry :: rest ++ second)
        = some ((ofValue (extend value (entry :: rest))).insertAll
            (entry :: rest ++ second)).render := rfl
      _ = some ((ofValue value).insertAll (entry :: rest ++ second)).render := by
        rw [ofValue_extend value he, hsame]

/-- **Appending twice is appending once**, down to the text. -/
theorem extend_extend (value : Option String) {entries : List String}
    (he : ∀ e ∈ entries, PlainEntry e) :
    extend (extend value entries) entries = extend value entries := by
  simpa using extend_extend_append value he []

theorem isSome_extend (value : Option String) {entries : List String} (hne : entries ≠ []) :
    (extend value entries).isSome := by
  cases entries with
  | nil => exact absurd rfl hne
  | cons entry rest => rfl

/-- The text of gates that were appended is not empty. -/
theorem extend_ne_some_empty (value : Option String) {entries : List String}
    (he : ∀ e ∈ entries, PlainEntry e) (hne : entries ≠ []) : extend value entries ≠ some "" := by
  obtain ⟨entry, hentry⟩ := List.exists_mem_of_ne_nil entries hne
  intro h
  have hmem : entry ∈ (ofValue (some "")).entries := by
    rw [← h, ofValue_extend value he]
    exact mem_insertAll.2 (.inr hentry)
  have hnone : (ofValue (some "")).entries = [] := by decide
  exact List.not_mem_nil (hnone ▸ hmem)

/-- **What storing gates does to a flag map.** -/
theorem get?_store (gates : GateSet) (flags : FlagMap) (name : String) :
    (gates.store flags).get? name =
      if name = Flag.featureGates then (if gates.isEmpty then none else some gates.render)
      else flags.get? name := by
  unfold store
  cases gates.isEmpty with
  | true => exact Dict.get?_erase flags Flag.featureGates name
  | false => exact Dict.get?_insert flags Flag.featureGates name gates.render

theorem get?_store_insert (gates : GateSet) (entry : String) (flags : FlagMap) (name : String) :
    ((gates.insert entry).store flags).get? name =
      if name = Flag.featureGates then some (gates.insert entry).render else flags.get? name := by
  rw [get?_store, isEmpty_insert, if_neg Bool.false_ne_true]

/-- Plain gates are read back as they were stored. -/
theorem ofFlags_store {gates : GateSet} (h : gates.Plain) (flags : FlagMap) :
    ofFlags (gates.store flags) = gates := by
  rw [ofFlags_eq_ofValue, get?_store, if_pos rfl]
  cases hempty : gates.isEmpty with
  | true =>
    -- without a flag there are no gates, as it should be
    have hnil : gates.entries = [] := List.isEmpty_iff.1 hempty
    cases gates
    cases hnil
    rfl
  | false => exact parse_render h

end GateSet

namespace FlagMap

open GateSet

/-- Append entries to the gates of a flag map, one after another. -/
def addGates (flags : FlagMap) (entries : List String) : FlagMap :=
  entries.foldl (fun acc entry => ((ofFlags acc).insert entry).store acc) flags

/-- The default gates for a version. -/
def defaultGatesAt (version : String) : List String :=
  (defaultGates.filter fun gate => atLeast version gate.1).map (·.2)

theorem addGate_eq_addGates (flags : FlagMap) (version threshold entry : String) :
    flags.addGate version threshold entry =
      flags.addGates (if atLeast version threshold then [entry] else []) := by
  unfold addGate
  split <;> rfl

theorem addGates_append (flags : FlagMap) (first second : List String) :
    flags.addGates (first ++ second) = (flags.addGates first).addGates second :=
  List.foldl_append

theorem addDefaultGates_eq_addGates (flags : FlagMap) (version : String) :
    flags.addDefaultGates version = flags.addGates (defaultGatesAt version) := by
  unfold addDefaultGates defaultGatesAt
  induction defaultGates generalizing flags with
  | nil => rfl
  | cons gate rest ih =>
    rw [List.foldl_cons, ih, addGate_eq_addGates, ← addGates_append, List.filter_cons]
    split <;> rfl

/-- **What adding gates does to a flag map.** -/
theorem get?_addGates (flags : FlagMap) {entries : List String}
    (he : ∀ e ∈ entries, PlainEntry e) (name : String) :
    (flags.addGates entries).get? name =
      if name = Flag.featureGates then extend (flags.get? Flag.featureGates) entries
      else flags.get? name := by
  induction entries generalizing flags with
  | nil =>
    by_cases h : name = Flag.featureGates
    · rw [if_pos h, h]; rfl
    · rw [if_neg h]; rfl
  | cons entry rest ih =>
    obtain ⟨hentry, hrest⟩ := List.forall_mem_cons.1 he
    rw [addGates, List.foldl_cons, ← addGates, ih _ hrest, get?_store_insert, get?_store_insert]
    by_cases h : name = Flag.featureGates
    · rw [if_pos h, if_pos rfl, if_pos h]
      -- the text just written is taken apart again before the next entry is appended
      have hback : ofValue (some ((ofFlags flags).insert entry).render) =
          (ofFlags flags).insert entry :=
        parse_render ((plain_ofValue _).insert hentry)
      cases rest with
      | nil => rfl
      | cons next others => rw [extend, hback]; rfl
    · rw [if_neg h, if_neg h, if_neg h]

theorem plainEntry_of_mem_defaultGatesAt {version entry : String}
    (h : entry ∈ defaultGatesAt version) : PlainEntry entry := by
  have hall : ∀ gate ∈ defaultGates, PlainEntry gate.2 := by decide
  obtain ⟨gate, hgate, rfl⟩ := List.mem_map.1 h
  exact hall gate (List.mem_filter.1 hgate).1

/-! ### One gate -/

/-- The gates of a flag map after entries were added. -/
theorem ofFlags_addGates (flags : FlagMap) {entries : List String}
    (he : ∀ e ∈ entries, PlainEntry e) :
    ofFlags (flags.addGates entries) = (ofFlags flags).insertAll entries := by
  rw [ofFlags_eq_ofValue, get?_addGates flags he, if_pos rfl, ofValue_extend _ he,
    ofFlags_eq_ofValue]

/-- Adding the same gates again changes nothing. -/
theorem addGates_addGates (flags : FlagMap) {entries : List String}
    (he : ∀ e ∈ entries, PlainEntry e) :
    (flags.addGates entries).addGates entries = flags.addGates entries := by
  refine Dict.ext_get? fun name => ?_
  simp only [get?_addGates _ he, if_true]
  split
  · exact extend_extend _ he
  · rfl

section AddGate

variable {entry : String} (flags : FlagMap) (version threshold : String)

theorem plain_ite (h : PlainEntry entry) :
    ∀ e ∈ (if atLeast version threshold then [entry] else []), PlainEntry e := by
  split
  · exact List.forall_mem_singleton.2 h
  · exact nofun

theorem get?_addGate_of_ne (h : PlainEntry entry) {name : String}
    (hname : name ≠ Flag.featureGates) :
    (flags.addGate version threshold entry).get? name = flags.get? name := by
  rw [addGate_eq_addGates, get?_addGates _ (plain_ite version threshold h), if_neg hname]

/-- A gate is appended from its version on, unless it is there already. -/
theorem entries_ofFlags_addGate (h : PlainEntry entry) :
    (ofFlags (flags.addGate version threshold entry)).entries =
      if atLeast version threshold = true ∧ entry ∉ (ofFlags flags).entries then
        (ofFlags flags).entries ++ [entry]
      else (ofFlags flags).entries := by
  rw [addGate_eq_addGates, ofFlags_addGates _ (plain_ite version threshold h)]
  cases atLeast version threshold with
  | true =>
    show ((ofFlags flags).insert entry).entries = _
    rw [entries_insert]
    by_cases hmem : entry ∈ (ofFlags flags).entries <;> simp [hmem]
  | false => simp [insertAll]

theorem addGate_addGate (h : PlainEntry entry) :
    (flags.addGate version threshold entry).addGate version threshold entry =
      flags.addGate version threshold entry := by
  rw [addGate_eq_addGates, addGate_eq_addGates,
    addGates_addGates _ (plain_ite version threshold h)]

end AddGate

/-- **Gates lose nothing in a flag map.** A set that was taken from a text and given plain entries
is read back from the map it is stored in, entry by entry; the other flags stay as they are, and
there is a flag just if there are gates. A gate that is added comes after those that are there, and
a second time changes nothing. -/
theorem gates_survive_storing_and_adding (composite : String) (entries : List String)
    (hentries : ∀ e ∈ entries, PlainEntry e) (flags : FlagMap) :
    let gates := (parse composite).insertAll entries
    let stored := gates.store flags
    -- storing and reading back
    (ofFlags stored).entries = gates.entries ∧
    (∀ name, name ≠ Flag.featureGates → stored.get? name = flags.get? name) ∧
    (stored.contains Flag.featureGates = true ↔ gates.entries ≠ []) ∧
    -- adding a gate, once and again
    ∀ version threshold entry, PlainEntry entry →
      let added := flags.addGate version threshold entry
      (ofFlags flags).entries <+: (ofFlags added).entries ∧
      ((ofFlags added).entries =
        if atLeast version threshold = true ∧ entry ∉ (ofFlags flags).entries then
          (ofFlags flags).entries ++ [entry]
        else (ofFlags flags).entries) ∧
      (∀ name, name ≠ Flag.featureGates → added.get? name = flags.get? name) ∧
      added.addGate version threshold entry = added := by
  intro gates stored
  have hplain : gates.Plain := (plain_parse composite).insertAll hentries
  refine ⟨congrArg GateSet.entries (ofFlags_store hplain flags), fun name hname => ?_, ?_, ?_⟩
  · rw [get?_store, if_neg hname]
  · rw [Dict.contains_eq_isSome, get?_store, if_pos rfl, isEmpty]
    cases gates.entries <;> simp
  · intro version threshold entry hentry added
    have hexact := entries_ofFlags_addGate flags version threshold hentry
    refine ⟨?_, hexact, fun name => get?_addGate_of_ne flags version threshold hentry,
      addGate_addGate flags version threshold hentry⟩
    rw [hexact]
    split
    · exact List.prefix_append _ _
    · exact List.prefix_refl _

/-- A text with blanks, an empty segment and an entry that stands twice; of the entries that are
appended one is there already. -/
theorem gates_survive_storing_and_adding_awkward_text :
    let gates := (parse " A=true,,B=false ,\u2003A=true,").insertAll ["C=true", "B=false"]
    let flags : FlagMap := .ofList [(Flag.featureGates, ", ,"), (Flag.maxPods, "30")]
    let added := flags.addGate "1.12.0" "1.8.0" podPriority
    (∀ e ∈ ["C=true", "B=false"], PlainEntry e) ∧
      gates.entries = ["A=true", "B=false", "A=true", "C=true"] ∧
      (ofFlags (gates.store flags)).entries = gates.entries ∧
      (gates.store flags).get? Flag.maxPods = some "30" ∧
      (gates.store flags).contains Flag.featureGates = true ∧
      PlainEntry podPriority ∧
      (ofFlags added).entries = [podPriority] ∧
      added.addGate "1.12.0" "1.8.0" podPriority = added := by
  intro gates flags added
  have hentries : ∀ e ∈ ["C=true", "B=false"], PlainEntry e := by decide
  have hpriority : PlainEntry podPriority := by decide
  have hgates : gates.entries = ["A=true", "B=false", "A=true", "C=true"] := by decide +kernel
  obtain ⟨hback, hother, hpresent, hadd⟩ := gates_survive_storing_and_adding
    " A=true,,B=false ,\u2003A=true," ["C=true", "B=false"] hentries flags
  obtain ⟨-, hexact, -, htwice⟩ := hadd "1.12.0" "1.8.0" podPriority hpriority
  refine ⟨hentries, hgates, hback, ?_, ?_, hpriority, ?_, htwice⟩
  · rw [hother _ (by decide)]
    decide +kernel
  · exact hpresent.2 (by rw [hgates]; exact List.cons_ne_nil _ _)
  · rw [hexact]
    decide +kernel

end FlagMap

end NodeFlags
