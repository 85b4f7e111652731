import NodeFlags.Proofs.JsonValue
import NodeFlags.Proofs.Outcome
import NodeFlags.Schema.Load

/-!
# Documents of plain JSON

A document is a text that is one JSON value with blanks in it and around it. The tokens
read as a value that is not cut are the tokens of the value and no others
(`Json.eq_tokens_of_readValue`), so a document is a text whose tokens are those of a value
(`Json.isDocument_iff`). Between tokens that can all be read there is no place for a
comment, and so removing comments leaves a document as it is.

Whatever is read as a definition without regard to comments is a document
(`Definition.isDocument_of_readStrictJson`): the readers of the kinds of value give
nothing for a value that is cut (`Json.OnlyWhole`), even where they skip it.
-/

namespace NodeFlags

namespace Json

/-! ### Tokens that were read -/

/-- A comma before each item is a comma before all of them. -/
theorem moreItemTokens_of_ne_nil {items : List Json} (h : items ≠ []) :
    moreItemTokens items = .comma :: itemTokens items := by
  cases items with
  | nil => exact absurd rfl h
  | cons v vs => rfl

theorem moreMemberTokens_of_ne_nil {members : List (Option String × Json)} (h : members ≠ []) :
    moreMemberTokens members = .comma :: memberTokens members := by
  cases members with
  | nil => exact absurd rfl h
  | cons m ms => rfl

mutual

/-- **What is read as a value that is not cut are the tokens of the value.** -/
theorem eq_tokens_of_readValue : ∀ {fuel : Nat} {ts rest : List Token} {v : Json},
    readValue fuel ts = (v, rest) → v.isWhole = true → ts = v.tokens ++ rest
  | 0, ts, rest, v, h, hwhole => by
    -- what is not looked at is cut, so the fuel was enough
    rw [readValue] at h
    cases h
    exact absurd hwhole Bool.false_ne_true
  | fuel + 1, ts, rest, v, h, hwhole => by
    unfold readValue at h
    split at h
    · cases h; rfl
    · cases h; rfl
    · cases h; rfl
    · cases h; rfl
    · cases h; rfl
    · rename_i ts' _
      generalize hitems : readItems fuel ts' = r at h
      obtain ⟨items, closed, rest'⟩ := r
      cases h
      obtain ⟨rfl, hwhole⟩ := Bool.and_eq_true_iff.1 hwhole
      obtain ⟨-, rfl⟩ := eq_itemTokens_of_readItems hitems hwhole
      simp [tokens]
    · cases h; rfl
    · rename_i k ts'
      generalize hmembers : readMembers fuel (.text k :: ts') = r at h
      obtain ⟨members, closed, rest'⟩ := r
      cases h
      obtain ⟨rfl, hwhole⟩ := Bool.and_eq_true_iff.1 hwhole
      rw [(eq_memberTokens_of_readMembers hmembers hwhole).2]
      simp [tokens]
    · cases h
      exact absurd hwhole Bool.false_ne_true
    · cases h
      exact absurd hwhole Bool.false_ne_true

theorem eq_itemTokens_of_readItems : ∀ {fuel : Nat} {ts rest : List Token} {items : List Json},
    readItems fuel ts = (items, true, rest) → itemsWhole items = true →
      items ≠ [] ∧ ts = itemTokens items ++ .closeArray :: rest
  | 0, ts, rest, items, h, hwhole => by
    rw [readItems] at h
    cases h
  | fuel + 1, ts, rest, items, h, hwhole => by
    unfold readItems at h
    split at h
    · rename_i v ts' hv
      generalize hvs : readItems fuel ts' = r at h
      obtain ⟨vs, closed, rest'⟩ := r
      cases h
      obtain ⟨hwhole, hwholes⟩ := Bool.and_eq_true_iff.1 hwhole
      obtain ⟨hne, rfl⟩ := eq_itemTokens_of_readItems hvs hwholes
      refine ⟨List.cons_ne_nil _ _, ?_⟩
      rw [eq_tokens_of_readValue hv hwhole, itemTokens, moreItemTokens_of_ne_nil hne]
      simp
    · rename_i v ts' hv
      cases h
      obtain ⟨hwhole, -⟩ := Bool.and_eq_true_iff.1 hwhole
      refine ⟨List.cons_ne_nil _ _, ?_⟩
      rw [eq_tokens_of_readValue hv hwhole, itemTokens, moreItemTokens, List.append_nil]
    · cases h

theorem eq_memberTokens_of_readMembers : ∀ {fuel : Nat} {ts rest : List Token}
    {members : List (Option String × Json)},
    readMembers fuel ts = (members, true, rest) → membersWhole members = true →
      members ≠ [] ∧ ts = memberTokens members ++ .closeObject :: rest
  | 0, ts, rest, members, h, hwhole => by
    rw [readMembers] at h
    cases h
  | fuel + 1, ts, rest, members, h, hwhole => by
    unfold readMembers at h
    split at h
    · rename_i k ts'
      split at h
      · rename_i v ts'' hv
        generalize hms : readMembers fuel ts'' = r at h
        obtain ⟨ms, closed, rest'⟩ := r
        cases h
        obtain ⟨hwhole, hwholes⟩ := Bool.and_eq_true_iff.1 hwhole
        obtain ⟨hne, rfl⟩ := eq_memberTokens_of_readMembers hms hwholes
        refine ⟨List.cons_ne_nil _ _, ?_⟩
        rw [eq_tokens_of_readValue hv hwhole, memberTokens, moreMemberTokens_of_ne_nil hne]
        simp
      · rename_i v ts'' hv
        cases h
        obtain ⟨hwhole, -⟩ := Bool.and_eq_true_iff.1 hwhole
        refine ⟨List.cons_ne_nil _ _, ?_⟩
        rw [eq_tokens_of_readValue hv hwhole, memberTokens, moreMemberTokens]
        simp
      · cases h
    · cases h
    · cases h

end

mutual

/-- Nothing unreadable is among the tokens of a value. -/
theorem broken_not_mem_tokens : ∀ v : Json, Token.broken ∉ v.tokens
  | .null | .bool _ | .number _ | .text _ | .keyless _ | .missing => by simp [tokens]
  | .array items _ => by simp [tokens, broken_not_mem_itemTokens items]
  | .object members _ => by simp [tokens, broken_not_mem_memberTokens members]

theorem broken_not_mem_itemTokens : ∀ items : List Json, Token.broken ∉ itemTokens items
  | [] => by simp [itemTokens]
  | v :: vs => by
    simp [itemTokens, broken_not_mem_tokens v, broken_not_mem_moreItemTokens vs]

theorem broken_not_mem_moreItemTokens : ∀ items : List Json, Token.broken ∉ moreItemTokens items
  | [] => by simp [moreItemTokens]
  | v :: vs => by
    simp [moreItemTokens, broken_not_mem_tokens v, broken_not_mem_moreItemTokens vs]

theorem broken_not_mem_memberTokens :
    ∀ members : List (Option String × Json), Token.broken ∉ memberTokens members
  | [] => by simp [memberTokens]
  | (k, v) :: ms => by
    simp [memberTokens, broken_not_mem_tokens v, broken_not_mem_moreMemberTokens ms]

theorem broken_not_mem_moreMemberTokens :
    ∀ members : List (Option String × Json), Token.broken ∉ moreMemberTokens members
  | [] => by simp [moreMemberTokens]
  | (k, v) :: ms => by
    simp [moreMemberTokens, broken_not_mem_tokens v, broken_not_mem_moreMemberTokens ms]

end

/-! ### Documents -/

/-- A text that is one value that is not cut, with nothing but blanks after it. -/
def IsDocument (text : String) : Prop :=
  (read text.toList).1.isWhole = true ∧ (read text.toList).2 = true

instance : DecidablePred IsDocument := fun _ => inferInstanceAs (Decidable (_ ∧ _))

/-- **The tokens of a document are those of a value.** -/
theorem isDocument_iff {text : String} :
    IsDocument text ↔ ∃ v : Json, v.isWhole = true ∧ Token.scan text.toList = v.tokens := by
  constructor
  · rintro ⟨hwhole, hend⟩
    unfold read ofTokens at hwhole hend
    generalize hread : readValue _ (Token.scan text.toList) = r at hwhole hend
    obtain ⟨v, rest⟩ := r
    have htokens := eq_tokens_of_readValue hread hwhole
    rw [List.isEmpty_iff.1 hend, List.append_nil] at htokens
    exact ⟨v, hwhole, htokens⟩
  · rintro ⟨v, hwhole, htokens⟩
    rw [IsDocument, read_of_scan_eq hwhole htokens]
    exact ⟨hwhole, rfl⟩

/-- **A document has no comments.** -/
theorem IsDocument.stripText_eq_self {text : String} (h : IsDocument text) :
    Comment.stripText text = text := by
  obtain ⟨v, -, htokens⟩ := isDocument_iff.1 h
  have hstrip : Comment.strip text.toList = text.toList := by
    apply Comment.strip_eq_self_of_scan
    rw [htokens]
    exact broken_not_mem_tokens v
  rw [Comment.stripText, hstrip, String.ofList_toList]

/-! ### What is accepted is not cut -/

variable {α : Type} {read : Json → Read α}

/-- Nothing is read from a value that is cut. -/
def OnlyWhole (read : Json → Read α) : Prop :=
  ∀ v a, read v = .ok a → v.isWhole = true

theorem wrongKind_ne_ok (v : Json) (want : String) (a : α) : v.wrongKind want ≠ .ok a := by
  unfold wrongKind
  split <;> nofun

theorem atEnd_eq_ok_iff {closed : Bool} {a b : α} :
    atEnd closed a = .ok b ↔ closed = true ∧ a = b := by
  cases closed with
  | false => exact ⟨nofun, nofun⟩
  | true => exact ⟨fun h => ⟨rfl, by cases h; rfl⟩, fun h => h.2 ▸ rfl⟩

theorem onlyWhole_text : OnlyWhole readText := by
  intro v a h
  unfold readText at h
  split at h
  · rfl
  · exact absurd h (wrongKind_ne_ok _ _ _)

theorem onlyWhole_switch : OnlyWhole readSwitch := by
  intro v a h
  unfold readSwitch at h
  split at h
  · rfl
  · exact absurd h (wrongKind_ne_ok _ _ _)

theorem onlyWhole_choice (names : List (String × α)) : OnlyWhole (readChoice names) := by
  intro v a h
  unfold readChoice at h
  split at h
  · rfl
  · obtain ⟨_, -, h⟩ := bind_eq_ok_iff.1 h
    split at h
    · split at h
      · rename_i hrest
        rw [(atEnd_eq_ok_iff.1 h).1, List.isEmpty_iff.1 hrest]
        rfl
      · cases h
    · exact absurd h (wrongKind_ne_ok _ _ _)
  · exact absurd h (wrongKind_ne_ok _ _ _)
  · cases h

theorem OnlyWhole.orNull (h : OnlyWhole read) : OnlyWhole (readOptional read) := by
  intro v a hread
  unfold readOptional at hread
  split at hread
  · rfl
  · obtain ⟨b, hb, -⟩ := map_eq_ok_iff.1 hread
    exact h _ b hb

theorem OnlyWhole.list (h : OnlyWhole read) : OnlyWhole (readList read) := by
  intro v a hread
  unfold readList at hread
  split at hread
  · rename_i items closed
    obtain ⟨as, has, hend⟩ := bind_eq_ok_iff.1 hread
    refine Bool.and_eq_true_iff.2 ⟨(atEnd_eq_ok_iff.1 hend).1, itemsWhole_iff.2 fun v hv => ?_⟩
    obtain ⟨b, hb⟩ := exists_eq_ok_of_mapM has v hv
    exact h v b hb
  · exact absurd hread (wrongKind_ne_ok _ _ _)

theorem membersWhole_of_readEntries (h : OnlyWhole read) {members : List (Option String × Json)}
    {acc d : Dict α} (hread : readEntries read members acc = .ok d) :
    membersWhole members = true := by
  fun_induction readEntries read members acc with
  | case1 => rfl
  | case2 => cases hread
  | case3 k v rest acc ih =>
    obtain ⟨a, ha, hread⟩ := bind_eq_ok_iff.1 hread
    exact Bool.and_eq_true_iff.2 ⟨h v a ha, ih a hread⟩

theorem OnlyWhole.dict (h : OnlyWhole read) : OnlyWhole (readDict read) := by
  intro v a hread
  unfold readDict at hread
  split at hread
  · obtain ⟨d, hd, hend⟩ := bind_eq_ok_iff.1 hread
    exact Bool.and_eq_true_iff.2 ⟨(atEnd_eq_ok_iff.1 hend).1, membersWhole_of_readEntries h hd⟩
  · cases hread
  · exact absurd hread (wrongKind_ne_ok _ _ _)

/-! ### Records -/

variable {β : Type} {fields : List (Field Read Json α)}

theorem OnlyWhole.map {read : Json → Read β} (h : OnlyWhole read) (f : β → α) :
    OnlyWhole fun v => f <$> read v := by
  intro v a hread
  obtain ⟨b, hb, -⟩ := map_eq_ok_iff.1 hread
  exact h v b hb

theorem OnlyWhole.mandatory {read : Json → Read β} (h : OnlyWhole read) {name : String}
    {put : α → β → α} : OnlyWhole (Field.mandatory name read put : Field Read Json α).read :=
  h.map _

theorem OnlyWhole.optional {read : Json → Read β} (h : OnlyWhole read) {name : String}
    {put : α → β → α} : OnlyWhole (Field.optional name read put : Field Read Json α).read :=
  h.map _

/-- Members that belong to no field are skipped, but not if they are cut. -/
theorem membersWhole_of_readFields (h : ∀ f ∈ fields, OnlyWhole f.read)
    {members : List (Option String × Json)} {seen : List String} {a : α} {r : α × List String}
    (hread : readFields fields members seen a = .ok r) : membersWhole members = true := by
  fun_induction readFields fields members seen a with
  | case1 => rfl
  | case2 => cases hread
  | case3 k v rest seen a _ hwhole ih => exact Bool.and_eq_true_iff.2 ⟨hwhole, ih hread⟩
  | case4 => cases hread
  | case5 => cases hread
  | case6 k v rest seen a f hf _ ih =>
    obtain ⟨put, hput, hread⟩ := bind_eq_ok_iff.1 hread
    exact Bool.and_eq_true_iff.2 ⟨h f (List.mem_of_find?_eq_some hf) v put hput, ih put hread⟩

theorem itemsWhole_of_readPositions (h : ∀ f ∈ fields, OnlyWhole f.read) {record : String}
    {size index : Nat} {closed : Bool} {items : List Json} {a b : α}
    (hread : readPositions record size closed fields items index a = .ok b) :
    closed = true ∧ itemsWhole items = true := by
  fun_induction readPositions record size closed fields items index a with
  | case1 => exact ⟨(atEnd_eq_ok_iff.1 hread).1, rfl⟩
  | case2 => cases hread
  | case3 => cases hread
  | case4 => cases hread
  | case5 f fs index a _ _ ih => exact ih (List.forall_mem_cons.1 h).2 hread
  | case6 f fs v vs index a ih =>
    obtain ⟨hf, hfs⟩ := List.forall_mem_cons.1 h
    obtain ⟨put, hput, hread⟩ := bind_eq_ok_iff.1 hread
    obtain ⟨hclosed, hvs⟩ := ih put hfs hread
    exact ⟨hclosed, Bool.and_eq_true_iff.2 ⟨hf v put hput, hvs⟩⟩

theorem onlyWhole_record (h : ∀ f ∈ fields, OnlyWhole f.read) (record : String) (blank : α) :
    OnlyWhole (readRecord record fields blank) := by
  intro v a hread
  unfold readRecord at hread
  split at hread
  · obtain ⟨r, hr, hread⟩ := bind_eq_ok_iff.1 hread
    obtain ⟨_, hend, -⟩ := bind_eq_ok_iff.1 hread
    exact Bool.and_eq_true_iff.2 ⟨(atEnd_eq_ok_iff.1 hend).1, membersWhole_of_readFields h hr⟩
  · exact Bool.and_eq_true_iff.2 (itemsWhole_of_readPositions h hread)
  · cases hread
  · exact absurd hread (wrongKind_ne_ok _ _ _)

/-! ### The records of a definition -/

theorem onlyWhole_flagMap : OnlyWhole reader.flagMap :=
  onlyWhole_text.dict

theorem onlyWhole_context : OnlyWhole reader.context := by
  refine onlyWhole_record ?_ _ _
  simp only [Reader.contextFields, List.forall_mem_cons]
  exact ⟨onlyWhole_text.mandatory, onlyWhole_text.optional, onlyWhole_text.optional,
    (onlyWhole_choice _).optional, (onlyWhole_choice _).optional, (onlyWhole_choice _).optional,
    onlyWhole_switch.optional, onlyWhole_text.optional, onlyWhole_switch.optional,
    onlyWhole_switch.optional, onlyWhole_switch.optional, onlyWhole_flagMap.optional, nofun⟩

theorem onlyWhole_role : OnlyWhole reader.role := by
  refine onlyWhole_record ?_ _ _
  simp only [Reader.roleFields, List.forall_mem_cons]
  exact ⟨onlyWhole_text.mandatory, (onlyWhole_choice _).optional, onlyWhole_text.optional,
    onlyWhole_flagMap.orNull.optional, nofun⟩

theorem onlyWhole_components : OnlyWhole reader.components := by
  refine onlyWhole_record ?_ _ _
  simp only [Reader.componentsFields, List.forall_mem_cons]
  exact ⟨onlyWhole_text.mandatory, onlyWhole_text.mandatory, nofun⟩

theorem onlyWhole_definition : OnlyWhole reader.definition := by
  refine onlyWhole_record ?_ _ _
  simp only [Reader.definitionFields, List.forall_mem_cons]
  exact ⟨onlyWhole_context.mandatory, onlyWhole_role.orNull.optional, onlyWhole_role.list.optional,
    onlyWhole_components.dict.optional, nofun⟩

end Json

/-! ### Definitions -/

namespace Definition

open Json (IsDocument)

/-- Read a definition from a text in JSON, in which no comments may stand. -/
def readStrictJson (text : String) : Except ReadError Definition :=
  let (v, complete) := Json.read text.toList
  match Json.reader.definition v with
  | .error e => .error e
  | .ok d => if complete then .ok d else .error .malformed

/-- With comments the strict reader reads what is left without them. -/
theorem read_json_eq (text : String) :
    read .json text = readStrictJson (Json.Comment.stripText text) := by
  rw [readStrictJson, Json.Comment.stripText, String.toList_ofList]
  rfl

/-- What is read as a definition without regard to comments is a document. -/
theorem isDocument_of_readStrictJson {text : String} {d : Definition}
    (h : readStrictJson text = .ok d) : IsDocument text := by
  unfold readStrictJson at h
  simp only at h
  split at h
  · cases h
  · rename_i hd
    split at h
    · rename_i hend
      exact ⟨Json.onlyWhole_definition _ _ hd, hend⟩
    · cases h

/-- **Comments cost plain JSON nothing.** Nothing is removed from a document, and it is read as if
comments were unknown; so whatever the strict reader accepts is read as the same definition. -/
theorem read_json_of_document :
    (∀ text, IsDocument text → Json.Comment.stripText text = text ∧
      read .json text = readStrictJson text) ∧
    ∀ text d, readStrictJson text = .ok d → read .json text = .ok d := by
  have hdocument : ∀ text, IsDocument text → read .json text = readStrictJson text := by
    intro text h
    rw [read_json_eq, h.stripText_eq_self]
  refine ⟨fun text h => ⟨h.stripText_eq_self, hdocument text h⟩, fun text d h => ?_⟩
  rw [hdocument text (isDocument_of_readStrictJson h), h]

/-- Escaped quotes and slashes, a run of backslashes before a quote and the marks of both kinds of
comment. -/
theorem read_json_of_document_marks :
    let text := " \x7b\"context\" : [\"v1 // no comment\"],\n \"x\": [1.5e-3, " ++
      "\"\\\\\\\" /* http:\\/\\/\\u00e9\"]\x7d\t"
    (IsDocument text ∧ Json.Comment.stripText text = text ∧
      read .json text = readStrictJson text) ∧
    ∃ d, readStrictJson text = .ok d ∧ read .json text = .ok d := by
  intro text
  have hdocument : IsDocument text := by decide +kernel
  have haccepted : (readStrictJson text).toOption.isSome = true := by decide +kernel
  cases hread : readStrictJson text with
  | error e =>
    rw [hread] at haccepted
    exact absurd haccepted Bool.false_ne_true
  | ok d =>
    obtain ⟨hkept, hsame⟩ := read_json_of_document
    exact ⟨⟨hdocument, hread ▸ hkept text hdocument⟩, d, rfl, hsame text d hread⟩

end Definition

end NodeFlags
