import NodeFlags.Json.Printer
import NodeFlags.Proofs.Comment
import NodeFlags.Proofs.JsonToken

/-!
# Values of JSON, written and read again

A value and its text meet in the middle, at the tokens of the value (`Json.tokens`).
The compact text is the tokens written one after another (`compactChars_eq_flatMap`),
and the tokens of a value that is not cut are read as that value, whatever tokens
follow (`readValue_tokens`). Hence what is written of a plain value, one without
numbers, is read as the value (`read_compactChars`), and no part of it is taken for
a comment (`strip_compactChars`).
-/

namespace NodeFlags.Json

/-! ### The tokens of a value -/

mutual

/-- The tokens of a value. -/
def tokens : Json → List Token
  | .null => [.null]
  | .bool b => [.bool b]
  | .number n => [.number n]
  | .text s => [.text s]
  | .array items _ => .openArray :: itemTokens items ++ [.closeArray]
  | .object members _ => .openObject :: memberTokens members ++ [.closeObject]
  | .keyless _ => [.openObject, .closeObject]
  | .missing => []

/-- The tokens of items, with commas between them. -/
def itemTokens : List Json → List Token
  | [] => []
  | v :: vs => v.tokens ++ moreItemTokens vs

/-- The tokens of items, with a comma before each. -/
def moreItemTokens : List Json → List Token
  | [] => []
  | v :: vs => .comma :: v.tokens ++ moreItemTokens vs

/-- The tokens of members, with commas between them. -/
def memberTokens : List (Option String × Json) → List Token
  | [] => []
  | (k, v) :: ms => .text k :: .colon :: v.tokens ++ moreMemberTokens ms

/-- The tokens of members, with a comma before each. -/
def moreMemberTokens : List (Option String × Json) → List Token
  | [] => []
  | (k, v) :: ms => .comma :: .text k :: .colon :: v.tokens ++ moreMemberTokens ms

end

/-! ### Writing tokens -/

mutual

/-- **The compact text of a value is its tokens**, written one after another. -/
theorem compactChars_eq_flatMap : ∀ v : Json, v.compactChars = v.tokens.flatMap Token.render
  | .null | .bool _ | .number _ | .text _ | .keyless _ | .missing => by
    simp [compactChars, tokens, Token.render]
  | .array items _ => by
    simp [compactChars, tokens, Token.render, compactItems_eq_flatMap items]
  | .object members _ => by
    simp [compactChars, tokens, Token.render, compactMembers_eq_flatMap members]

theorem compactItems_eq_flatMap :
    ∀ items : List Json, compactItems items = (itemTokens items).flatMap Token.render
  | [] => rfl
  | v :: vs => by
    simp [compactItems, itemTokens, compactChars_eq_flatMap v, compactMoreItems_eq_flatMap vs]

theorem compactMoreItems_eq_flatMap :
    ∀ items : List Json, compactMoreItems items = (moreItemTokens items).flatMap Token.render
  | [] => rfl
  | v :: vs => by
    simp [compactMoreItems, moreItemTokens, Token.render, compactChars_eq_flatMap v,
      compactMoreItems_eq_flatMap vs]

theorem compactMembers_eq_flatMap :
    ∀ members : List (Option String × Json),
      compactMembers members = (memberTokens members).flatMap Token.render
  | [] => rfl
  | (k, v) :: ms => by
    simp [compactMembers, memberTokens, renderKey, Token.render, compactChars_eq_flatMap v,
      compactMoreMembers_eq_flatMap ms]

theorem compactMoreMembers_eq_flatMap :
    ∀ members : List (Option String × Json),
      compactMoreMembers members = (moreMemberTokens members).flatMap Token.render
  | [] => rfl
  | (k, v) :: ms => by
    simp [compactMoreMembers, moreMemberTokens, renderKey, Token.render,
      compactChars_eq_flatMap v, compactMoreMembers_eq_flatMap ms]

end

/-! ### Reading tokens -/

/-- The tokens of a value that is not cut begin with one that ends no array. -/
theorem exists_tokens_eq_cons {v : Json} (h : v.isWhole = true) :
    ∃ t ts, v.tokens = t :: ts ∧ t ≠ .closeArray := by
  cases v with
  | keyless found => exact absurd h Bool.false_ne_true
  | missing => exact absurd h Bool.false_ne_true
  | array items closed => exact ⟨_, _, rfl, nofun⟩
  | object members closed => exact ⟨_, _, rfl, nofun⟩
  | _ => exact ⟨_, _, rfl, nofun⟩

/-- An array whose first token is not its end is read by its items. -/
theorem readValue_openArray {t : Token} (ht : t ≠ .closeArray) (fuel : Nat) (ts : List Token) :
    readValue (fuel + 1) (.openArray :: t :: ts) =
      (.array (readItems fuel (t :: ts)).1 (readItems fuel (t :: ts)).2.1,
        (readItems fuel (t :: ts)).2.2) := by
  rw [readValue]
  intro ts' h
  cases h
  exact ht rfl

theorem readValue_openObject (fuel : Nat) (k : Option String) (ts : List Token) :
    readValue (fuel + 1) (.openObject :: .text k :: ts) =
      (.object (readMembers fuel (.text k :: ts)).1 (readMembers fuel (.text k :: ts)).2.1,
        (readMembers fuel (.text k :: ts)).2.2) := by
  rw [readValue]

mutual

/-- **The tokens of a value that is not cut are read as the value**, whatever follows. -/
theorem readValue_tokens : ∀ (v : Json) {fuel : Nat} (rest : List Token), v.isWhole = true →
    v.tokens.length ≤ fuel → readValue fuel (v.tokens ++ rest) = (v, rest)
  | .null, fuel + 1, rest, _, _ => by rw [tokens, List.cons_append, List.nil_append, readValue]
  | .bool b, fuel + 1, rest, _, _ => by rw [tokens, List.cons_append, List.nil_append, readValue]
  | .number n, fuel + 1, rest, _, _ => by
    rw [tokens, List.cons_append, List.nil_append, readValue]
  | .text s, fuel + 1, rest, _, _ => by rw [tokens, List.cons_append, List.nil_append, readValue]
  | .array [] closed, fuel + 1, rest, hwhole, _ => by
    obtain ⟨rfl, -⟩ := Bool.and_eq_true_iff.1 hwhole
    rfl
  | .array (v :: vs) closed, fuel + 1, rest, hwhole, hfuel => by
    obtain ⟨rfl, hitems⟩ := Bool.and_eq_true_iff.1 hwhole
    obtain ⟨hv, -⟩ := Bool.and_eq_true_iff.1 hitems
    have hread : readItems fuel (itemTokens (v :: vs) ++ .closeArray :: rest) =
        (v :: vs, true, rest) := by
      refine readItems_tokens (v :: vs) rest (List.cons_ne_nil _ _) hitems ?_
      simp only [tokens, List.cons_append, List.length_cons, List.length_append] at hfuel
      omega
    obtain ⟨t, ts, htokens, ht⟩ := exists_tokens_eq_cons hv
    have hopen : tokens (.array (v :: vs) true) ++ rest =
        .openArray :: t :: (ts ++ moreItemTokens vs ++ .closeArray :: rest) := by
      simp [tokens, itemTokens, htokens]
    have hcons : itemTokens (v :: vs) ++ .closeArray :: rest =
        t :: (ts ++ moreItemTokens vs ++ .closeArray :: rest) := by
      simp [itemTokens, htokens]
    rw [hopen, readValue_openArray ht, ← hcons, hread]
  | .object [] closed, fuel + 1, rest, hwhole, _ => by
    obtain ⟨rfl, -⟩ := Bool.and_eq_true_iff.1 hwhole
    rfl
  | .object ((k, v) :: ms) closed, fuel + 1, rest, hwhole, hfuel => by
    obtain ⟨rfl, hmembers⟩ := Bool.and_eq_true_iff.1 hwhole
    have hread : readMembers fuel (memberTokens ((k, v) :: ms) ++ .closeObject :: rest) =
        ((k, v) :: ms, true, rest) := by
      refine readMembers_tokens ((k, v) :: ms) rest (List.cons_ne_nil _ _) hmembers ?_
      simp only [tokens, List.cons_append, List.length_cons, List.length_append] at hfuel
      omega
    have hopen : tokens (.object ((k, v) :: ms) true) ++ rest =
        .openObject :: .text k :: (.colon :: v.tokens ++ moreMemberTokens ms ++
          .closeObject :: rest) := by
      simp [tokens, memberTokens]
    have hcons : memberTokens ((k, v) :: ms) ++ .closeObject :: rest =
        .text k :: (.colon :: v.tokens ++ moreMemberTokens ms ++ .closeObject :: rest) := by
      simp [memberTokens]
    rw [hopen, readValue_openObject, ← hcons, hread]
  | v, 0, rest, hwhole, hfuel => by
    obtain ⟨t, ts, htokens, -⟩ := exists_tokens_eq_cons hwhole
    rw [htokens] at hfuel
    exact absurd hfuel (Nat.not_succ_le_zero _)

/-- The tokens of items are read as the items, up to the end of their array. -/
theorem readItems_tokens : ∀ (items : List Json) {fuel : Nat} (rest : List Token), items ≠ [] →
    itemsWhole items = true → (itemTokens items).length < fuel →
    readItems fuel (itemTokens items ++ .closeArray :: rest) = (items, true, rest)
  | [], _, _, hne, _, _ => absurd rfl hne
  | [v], fuel + 1, rest, _, hwhole, hfuel => by
    obtain ⟨hv, -⟩ := Bool.and_eq_true_iff.1 hwhole
    simp only [itemTokens, moreItemTokens, List.append_nil] at hfuel ⊢
    rw [readItems, readValue_tokens v (.closeArray :: rest) hv (by omega)]
  | v :: w :: vs, fuel + 1, rest, _, hwhole, hfuel => by
    obtain ⟨hv, hrest⟩ := Bool.and_eq_true_iff.1 hwhole
    have hcons : itemTokens (v :: w :: vs) = v.tokens ++ .comma :: itemTokens (w :: vs) := by
      simp [itemTokens, moreItemTokens]
    rw [hcons, List.length_append, List.length_cons] at hfuel
    rw [hcons, List.append_assoc, List.cons_append, readItems,
      readValue_tokens v (.comma :: (itemTokens (w :: vs) ++ .closeArray :: rest)) hv (by omega)]
    simp only
    rw [readItems_tokens (w :: vs) rest (List.cons_ne_nil _ _) hrest (by omega)]

/-- The tokens of members are read as the members, up to the end of their object. -/
theorem readMembers_tokens : ∀ (members : List (Option String × Json)) {fuel : Nat}
    (rest : List Token), members ≠ [] → membersWhole members = true →
    (memberTokens members).length < fuel →
    readMembers fuel (memberTokens members ++ .closeObject :: rest) = (members, true, rest)
  | [], _, _, hne, _, _ => absurd rfl hne
  | [(k, v)], fuel + 1, rest, _, hwhole, hfuel => by
    obtain ⟨hv, -⟩ := Bool.and_eq_true_iff.1 hwhole
    simp only [memberTokens, moreMemberTokens, List.append_nil, List.length_cons] at hfuel ⊢
    rw [List.cons_append, List.cons_append, readMembers,
      readValue_tokens v (.closeObject :: rest) hv (by omega)]
  | (k, v) :: m :: ms, fuel + 1, rest, _, hwhole, hfuel => by
    obtain ⟨hv, hrest⟩ := Bool.and_eq_true_iff.1 hwhole
    have hcons : memberTokens ((k, v) :: m :: ms) =
        .text k :: .colon :: (v.tokens ++ .comma :: memberTokens (m :: ms)) := by
      obtain ⟨l, w⟩ := m
      simp [memberTokens, moreMemberTokens]
    rw [hcons, List.length_cons, List.length_cons, List.length_append, List.length_cons] at hfuel
    rw [hcons, List.cons_append, List.cons_append, List.append_assoc, List.cons_append,
      readMembers, readValue_tokens v
        (.comma :: (memberTokens (m :: ms) ++ .closeObject :: rest)) hv (by omega)]
    simp only
    rw [readMembers_tokens (m :: ms) rest (List.cons_ne_nil _ _) hrest (by omega)]

end

/-- The tokens of a value that is not cut are read as the value, and none is left. -/
theorem ofTokens_tokens {v : Json} (h : v.isWhole = true) : ofTokens v.tokens = (v, []) := by
  have hread : readValue (2 * v.tokens.length + 1) (v.tokens ++ []) = (v, []) :=
    readValue_tokens v [] h (by omega)
  rwa [List.append_nil] at hread

/-- A text with the tokens of a value that is not cut is read as that value. -/
theorem read_of_scan_eq {v : Json} (h : v.isWhole = true) {cs : List Char}
    (hscan : Token.scan cs = v.tokens) : read cs = (v, true) := by
  rw [read, hscan, ofTokens_tokens h]
  rfl

/-! ### Plain values -/

/-- A value that is not cut and holds no numbers. -/
structure Plain (v : Json) : Prop where
  isWhole : v.isWhole = true
  endsItself : ∀ t ∈ v.tokens, t.endsItself = true

theorem plain_ofText (s : String) : (ofText s).Plain :=
  ⟨rfl, List.forall_mem_singleton.2 rfl⟩

theorem plain_bool (b : Bool) : (Json.bool b).Plain :=
  ⟨rfl, List.forall_mem_singleton.2 rfl⟩

theorem itemsWhole_iff {items : List Json} :
    itemsWhole items = true ↔ ∀ v ∈ items, v.isWhole = true := by
  induction items with
  | nil => simp [itemsWhole]
  | cons v vs ih => simp [itemsWhole, ih]

theorem endsItself_moreItemTokens {items : List Json} (h : ∀ v ∈ items, v.Plain) :
    ∀ t ∈ moreItemTokens items, t.endsItself = true := by
  induction items with
  | nil => exact nofun
  | cons v vs ih =>
    obtain ⟨hv, hvs⟩ := List.forall_mem_cons.1 h
    exact List.forall_mem_cons.2 ⟨rfl, List.forall_mem_append.2 ⟨hv.endsItself, ih hvs⟩⟩

theorem plain_ofItems {items : List Json} (h : ∀ v ∈ items, v.Plain) : (ofItems items).Plain := by
  refine ⟨Bool.and_eq_true_iff.2 ⟨rfl, itemsWhole_iff.2 fun v hv => (h v hv).isWhole⟩, ?_⟩
  have hitems : ∀ t ∈ itemTokens items, t.endsItself = true := by
    cases items with
    | nil => exact nofun
    | cons v vs =>
      obtain ⟨hv, hvs⟩ := List.forall_mem_cons.1 h
      exact List.forall_mem_append.2 ⟨hv.endsItself, endsItself_moreItemTokens hvs⟩
  exact List.forall_mem_cons.2 ⟨rfl,
    List.forall_mem_append.2 ⟨hitems, List.forall_mem_singleton.2 rfl⟩⟩

theorem membersWhole_of_forall {members : List (String × Json)}
    (h : ∀ m ∈ members, m.2.Plain) :
    membersWhole (members.map fun m => (some m.1, m.2)) = true := by
  induction members with
  | nil => rfl
  | cons m ms ih =>
    obtain ⟨hm, hms⟩ := List.forall_mem_cons.1 h
    rw [List.map_cons, membersWhole, hm.isWhole, ih hms, Bool.and_self]

theorem endsItself_moreMemberTokens {members : List (String × Json)}
    (h : ∀ m ∈ members, m.2.Plain) :
    ∀ t ∈ moreMemberTokens (members.map fun m => (some m.1, m.2)), t.endsItself = true := by
  induction members with
  | nil => exact nofun
  | cons m ms ih =>
    obtain ⟨hm, hms⟩ := List.forall_mem_cons.1 h
    refine List.forall_mem_cons.2 ⟨rfl, List.forall_mem_cons.2 ⟨rfl, ?_⟩⟩
    exact List.forall_mem_cons.2 ⟨rfl, List.forall_mem_append.2 ⟨hm.endsItself, ih hms⟩⟩

theorem plain_ofMembers {members : List (String × Json)} (h : ∀ m ∈ members, m.2.Plain) :
    (ofMembers members).Plain := by
  refine ⟨Bool.and_eq_true_iff.2 ⟨rfl, membersWhole_of_forall h⟩, ?_⟩
  have hmembers : ∀ t ∈ memberTokens (members.map fun m => (some m.1, m.2)),
      t.endsItself = true := by
    cases members with
    | nil => exact nofun
    | cons m ms =>
      obtain ⟨hm, hms⟩ := List.forall_mem_cons.1 h
      refine List.forall_mem_cons.2 ⟨rfl, List.forall_mem_cons.2 ⟨rfl, ?_⟩⟩
      exact List.forall_mem_append.2 ⟨hm.endsItself, endsItself_moreMemberTokens hms⟩
  exact List.forall_mem_cons.2 ⟨rfl,
    List.forall_mem_append.2 ⟨hmembers, List.forall_mem_singleton.2 rfl⟩⟩

/-- **What is written compactly of a plain value is read as the value.** -/
theorem read_compactChars {v : Json} (h : v.Plain) : read v.compactChars = (v, true) := by
  apply read_of_scan_eq h.isWhole
  rw [compactChars_eq_flatMap, Token.scan_flatMap_render h.endsItself]

/-- What is written compactly of a plain value has no comments. -/
theorem strip_compactChars {v : Json} (h : v.Plain) :
    Comment.strip v.compactChars = v.compactChars := by
  apply Comment.strip_eq_self_of_scan
  rw [compactChars_eq_flatMap, Token.scan_flatMap_render h.endsItself]
  exact fun hbroken => absurd (h.endsItself _ hbroken) Bool.false_ne_true

end NodeFlags.Json
