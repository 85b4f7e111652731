import NodeFlags.Proofs.JsonValue

/-!
# Values of JSON laid out over lines

Laid out over lines a value has the same tokens as in its compact text, with blanks
between them, and blanks are passed over. A text *spells* tokens if it is scanned as
them before anything else (`Json.Spells`). Tokens that end by themselves spell
themselves, blanks spell nothing, and texts can be put together
(`Json.Spells.append`). So a value that is laid out spells its tokens
(`spells_prettyChars`), and a plain value is read back (`read_pretty`).
-/

namespace NodeFlags.Json

/-- A text that is scanned as the tokens `ts`, whatever follows. -/
def Spells (cs : List Char) (ts : List Token) : Prop :=
  ∀ rest, Token.scan (cs ++ rest) = ts ++ Token.scan rest

namespace Spells

variable {cs ds : List Char} {ts us : List Token}

theorem nil : Spells [] [] :=
  fun _ => rfl

theorem append (hcs : Spells cs ts) (hds : Spells ds us) : Spells (cs ++ ds) (ts ++ us) := by
  intro rest
  rw [List.append_assoc, hcs, hds, List.append_assoc]

theorem token {t : Token} (h : t.endsItself = true) : Spells t.render [t] :=
  Token.scan_render_append h

theorem blank {c : Char} (h : Token.isBlank c = true) : Spells [c] [] := by
  intro rest
  rw [List.singleton_append, Token.scan, if_pos h]
  rfl

theorem blanks (n : Nat) : Spells (List.replicate n ' ') [] := by
  induction n with
  | zero => exact nil
  | succ n ih => exact (blank (c := ' ') (by decide)).append ih

theorem newLine (depth : Nat) : Spells (Json.newLine depth) [] :=
  (blank (c := '\n') (by decide)).append (blanks (2 * depth))

/-- What spells tokens alone is scanned as them. -/
theorem scan_eq (h : Spells cs ts) : Token.scan cs = ts := by
  have hnil := h []
  rwa [List.append_nil, Token.scan_nil, List.append_nil] at hnil

end Spells

/-- A member spells its key, a colon and its value. -/
theorem spells_member {k : Option String} {cs : List Char} {ts : List Token}
    (hk : (Token.text k).endsItself = true) (hcs : Spells cs ts) :
    Spells (renderKey k ++ ':' :: ' ' :: cs) (.text k :: .colon :: ts) :=
  .append (.token hk) <| .append (.token (t := .colon) rfl) <| .append (.blank (c := ' ') rfl) hcs

mutual

/-- **A value laid out over lines spells its tokens**, if they all end by themselves. -/
theorem spells_prettyChars : ∀ (v : Json) (depth : Nat), (∀ t ∈ v.tokens, t.endsItself = true) →
    Spells (prettyChars depth v) v.tokens
  | .null, _, h | .bool _, _, h | .number _, _, h | .text _, _, h => by
    rw [prettyChars]
    exact .token (h _ List.mem_cons_self)
  | .array [] _, _, _ => .append (.token (t := .openArray) rfl) (.token (t := .closeArray) rfl)
  | .array (v :: vs) _, depth, h => by
    obtain ⟨hitems, -⟩ := List.forall_mem_append.1 (List.forall_mem_cons.1 h).2
    obtain ⟨hv, hvs⟩ := List.forall_mem_append.1 hitems
    have hspells := Spells.append (.token (t := .openArray) rfl) <|
      .append (.newLine (depth + 1)) <|
      .append (spells_prettyChars v (depth + 1) hv) <|
      .append (spells_prettyMoreItems vs (depth + 1) hvs) <|
      .append (.newLine depth) (.token (t := .closeArray) rfl)
    simpa [prettyChars, tokens, itemTokens, Token.render] using hspells
  | .object [] _, _, _ => .append (.token (t := .openObject) rfl) (.token (t := .closeObject) rfl)
  | .object ((k, v) :: ms) _, depth, h => by
    obtain ⟨hmembers, -⟩ := List.forall_mem_append.1 (List.forall_mem_cons.1 h).2
    obtain ⟨hk, hmember⟩ := List.forall_mem_cons.1 hmembers
    obtain ⟨hv, hms⟩ := List.forall_mem_append.1 (List.forall_mem_cons.1 hmember).2
    have hspells := Spells.append (.token (t := .openObject) rfl) <|
      .append (.newLine (depth + 1)) <|
      .append (spells_member hk (spells_prettyChars v (depth + 1) hv)) <|
      .append (spells_prettyMoreMembers ms (depth + 1) hms) <|
      .append (.newLine depth) (.token (t := .closeObject) rfl)
    simpa [prettyChars, tokens, memberTokens, Token.render] using hspells
  | .keyless _, _, _ => .append (.token (t := .openObject) rfl) (.token (t := .closeObject) rfl)
  | .missing, _, _ => .nil

theorem spells_prettyMoreItems : ∀ (items : List Json) (depth : Nat),
    (∀ t ∈ moreItemTokens items, t.endsItself = true) →
    Spells (prettyMoreItems depth items) (moreItemTokens items)
  | [], _, _ => .nil
  | v :: vs, depth, h => by
    obtain ⟨hv, hvs⟩ := List.forall_mem_append.1 (List.forall_mem_cons.1 h).2
    have hspells := Spells.append (.token (t := .comma) rfl) <|
      .append (.newLine depth) <|
      .append (spells_prettyChars v depth hv) (spells_prettyMoreItems vs depth hvs)
    simpa [prettyMoreItems, moreItemTokens, Token.render] using hspells

theorem spells_prettyMoreMembers : ∀ (members : List (Option String × Json)) (depth : Nat),
    (∀ t ∈ moreMemberTokens members, t.endsItself = true) →
    Spells (prettyMoreMembers depth members) (moreMemberTokens members)
  | [], _, _ => .nil
  | (k, v) :: ms, depth, h => by
    obtain ⟨hk, hmember⟩ := List.forall_mem_cons.1 (List.forall_mem_cons.1 h).2
    obtain ⟨hv, hms⟩ := List.forall_mem_append.1 (List.forall_mem_cons.1 hmember).2
    have hspells := Spells.append (.token (t := .comma) rfl) <|
      .append (.newLine depth) <|
      .append (spells_member hk (spells_prettyChars v depth hv))
        (spells_prettyMoreMembers ms depth hms)
    simpa [prettyMoreMembers, moreMemberTokens, Token.render] using hspells

end

/-- **What is laid out over lines of a plain value is read as the value.** -/
theorem read_pretty {v : Json} (h : v.Plain) : read v.pretty.toList = (v, true) := by
  rw [pretty, String.toList_ofList]
  exact read_of_scan_eq h.isWhole (spells_prettyChars v 0 h.endsItself).scan_eq

end NodeFlags.Json
