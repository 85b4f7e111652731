import NodeFlags.Proofs.Digits
import NodeFlags.Proofs.Outcome
import NodeFlags.Schema.Load

/-!
# References are replaced all or none

How a path is to be read is a matter of its characters alone: a dollar sign followed by
a dollar sign, a name or a closed pair of braces begins something, and every other
character stands for itself. `Path.Reads` states this form by form, without saying how
the parts are found. Every path can be read in this way, and in no other
(`Path.reads_iff`).

So the references of a path are settled before any variable is looked up. Each part then
stands for one piece of text (`Path.StandsFor`), or for nothing if it is a variable that is
not set and has no fallback. The pieces are put in the places of the parts, and nothing
looks into a piece again. Only a tilde at the beginning is then replaced, by the home
directory that `HOME` names, or else by that of the user's account, which the environment
does not tell (`Path.TildeStandsFor`).

If a part stands for nothing, the path is left as it was written, with all its other
references and its tilde (`Path.expand_of_unset`), and so the file at that path and no
other is loaded (`Definition.load_of_unset`).
-/

namespace NodeFlags

namespace Path

/-! ### Between braces -/

/-- What stands between braces, and the reference that it makes. The first `:-` begins a fallback,
unless it stands at the very beginning. -/
inductive InBraces : List Char → Segment → Prop where
  /-- A name alone. -/
  | name {body : List Char} (h : [':', '-'] <:+: body → [':', '-'] <+: body) :
      InBraces body (.reference body none)
  /-- A name and a fallback. -/
  | fallback {name : List Char} (hne : name ≠ []) (h : ¬ [':', '-'] <:+: name)
      (text : List Char) :
      InBraces (name ++ ':' :: '-' :: text) (.reference name (some text))

/-- A mark in a text stands at its head or in what follows. -/
theorem infix_cons_mark_iff {c : Char} {cs : List Char} :
    [':', '-'] <:+: c :: cs ↔ (c = ':' ∧ cs.head? = some '-') ∨ [':', '-'] <:+: cs := by
  rw [List.infix_cons_iff, List.cons_prefix_cons]
  cases cs with
  | nil => simp
  | cons d cs => simp [eq_comm]

theorem splitAtFallback_eq_none_iff {body : List Char} :
    splitAtFallback body = none ↔ ¬ [':', '-'] <:+: body := by
  fun_induction splitAtFallback body with
  | case1 => simp
  | case2 rest => simp [infix_cons_mark_iff]
  | case3 c rest hmark ih =>
    have hhead : ¬ (c = ':' ∧ rest.head? = some '-') := by
      rintro ⟨rfl, hhead⟩
      obtain ⟨more, rfl⟩ := List.head?_eq_some_iff.1 hhead
      exact hmark more rfl rfl
    rw [Option.map_eq_none_iff, ih, infix_cons_mark_iff, or_iff_right hhead]

/-- **A text is split at its first `:-`.** -/
theorem splitAtFallback_eq_some_iff {body name text : List Char} :
    splitAtFallback body = some (name, text) ↔
      body = name ++ ':' :: '-' :: text ∧ ¬ [':', '-'] <:+: name := by
  fun_induction splitAtFallback body generalizing name with
  | case1 => simp
  | case2 rest =>
    cases name with
    | nil => simp
    | cons c name =>
      -- a longer name would hold the mark with which the text begins
      refine iff_of_false nofun ?_
      rintro ⟨hbody, hname⟩
      rw [List.cons_append, List.cons.injEq] at hbody
      obtain ⟨rfl, hbody⟩ := hbody
      cases name with
      | nil => cases hbody
      | cons d name =>
        obtain ⟨rfl, -⟩ := List.cons.inj hbody
        exact hname (infix_cons_mark_iff.2 (.inl ⟨rfl, rfl⟩))
  | case3 c rest hmark ih =>
    cases name with
    | nil =>
      refine iff_of_false (by simp) ?_
      rintro ⟨hbody, -⟩
      obtain ⟨rfl, hrest⟩ := List.cons.inj hbody
      exact hmark text rfl hrest
    | cons d name =>
      have hhead : rest = name ++ ':' :: '-' :: text → ¬ (c = ':' ∧ name.head? = some '-') := by
        rintro hrest ⟨rfl, hname⟩
        obtain ⟨more, rfl⟩ := List.head?_eq_some_iff.1 hname
        exact hmark _ rfl hrest
      have hmap : (splitAtFallback rest).map (fun r => (c :: r.1, r.2)) = some (d :: name, text) ↔
          c = d ∧ splitAtFallback rest = some (name, text) := by
        cases splitAtFallback rest with
        | none => simp
        | some r => simp [Prod.ext_iff, and_assoc]
      rw [hmap, ih, infix_cons_mark_iff, List.cons_append, List.cons.injEq]
      constructor
      · rintro ⟨rfl, hrest, hname⟩
        exact ⟨⟨rfl, hrest⟩, not_or.2 ⟨hhead hrest, hname⟩⟩
      · rintro ⟨⟨rfl, hrest⟩, hname⟩
        exact ⟨rfl, hrest, (not_or.1 hname).2⟩

theorem inBraces_referenceOf (body : List Char) : InBraces body (referenceOf body) := by
  unfold referenceOf
  split
  · rename_i c name text hsplit
    obtain ⟨rfl, hname⟩ := splitAtFallback_eq_some_iff.1 hsplit
    exact .fallback (List.cons_ne_nil c name) hname text
  · rename_i hother
    refine .name fun hmark => ?_
    cases hsplit : splitAtFallback body with
    | none => exact absurd hmark (splitAtFallback_eq_none_iff.1 hsplit)
    | some r =>
      obtain ⟨name, text⟩ := r
      cases name with
      | nil =>
        obtain ⟨rfl, -⟩ := splitAtFallback_eq_some_iff.1 hsplit
        exact ⟨text, rfl⟩
      | cons c name => exact absurd hsplit (hother c name text)

/-- **Between braces stands one reference.** -/
theorem inBraces_iff {body : List Char} {part : Segment} :
    InBraces body part ↔ part = referenceOf body := by
  constructor
  · intro h
    cases h with
    | name h =>
      unfold referenceOf
      split
      · rename_i c name text hsplit
        -- a mark behind a name would have to stand at the beginning as well
        obtain ⟨rfl, hname⟩ := splitAtFallback_eq_some_iff.1 hsplit
        have hmark : [':', '-'] <+: c :: name ++ ':' :: '-' :: text :=
          h ⟨c :: name, text, by simp⟩
        obtain ⟨rfl, hhead⟩ := List.cons_prefix_cons.1 hmark
        cases name with
        | nil => simp at hhead
        | cons d name =>
          obtain ⟨rfl, -⟩ := List.cons_prefix_cons.1 hhead
          exact absurd (infix_cons_mark_iff.2 (.inl ⟨rfl, rfl⟩)) hname
      · rfl
    | @fallback name hne h text =>
      have hsplit : splitAtFallback (name ++ ':' :: '-' :: text) = some (name, text) :=
        splitAtFallback_eq_some_iff.2 ⟨rfl, h⟩
      unfold referenceOf
      rw [hsplit]
      cases name with
      | nil => exact absurd rfl hne
      | cons c name => rfl
  · rintro rfl
    exact inBraces_referenceOf body

/-! ### Reading a path -/

/-- How a path is read from its beginning: the segments that its characters make. -/
inductive Reads : List Char → List Segment → Prop where
  | nil : Reads [] []
  /-- A character that begins nothing. -/
  | char {c : Char} {rest : List Char} {parts : List Segment} (hc : c ≠ '$')
      (h : Reads rest parts) : Reads (c :: rest) (.literal [c] :: parts)
  /-- A dollar sign written twice. -/
  | dollar {rest : List Char} {parts : List Segment} (h : Reads rest parts) :
      Reads ('$' :: '$' :: rest) (.literal ['$'] :: parts)
  /-- A reference `$NAME`, with a name as long as it can be. -/
  | name {name rest : List Char} {parts : List Segment} (hne : name ≠ [])
      (hword : ∀ c ∈ name, Text.isWordChar c = true) (hend : Text.StopsAt Text.isWordChar rest)
      (h : Reads rest parts) : Reads ('$' :: (name ++ rest)) (.reference name none :: parts)
  /-- A reference `${NAME}` or `${NAME:-FALLBACK}`, up to the first closing brace. -/
  | braces {body rest : List Char} {part : Segment} {parts : List Segment} (hbody : '}' ∉ body)
      (hpart : InBraces body part) (h : Reads rest parts) :
      Reads ('$' :: '{' :: (body ++ '}' :: rest)) (part :: parts)
  /-- An opening brace that is never closed. -/
  | unclosed {rest : List Char} {parts : List Segment} (hrest : '}' ∉ rest)
      (h : Reads rest parts) : Reads ('$' :: '{' :: rest) (.literal ['$', '{'] :: parts)
  /-- A dollar sign before anything else. -/
  | alone {rest : List Char} {parts : List Segment}
      (hrest : ∀ c ∈ rest.head?, c ≠ '$' ∧ c ≠ '{' ∧ Text.isWordChar c = false)
      (h : Reads rest parts) : Reads ('$' :: rest) (.literal ['$'] :: parts)

theorem segments_char {c : Char} (hc : c ≠ '$') (rest : List Char) :
    segments (c :: rest) = .literal [c] :: segments rest := by
  rw [segments]
  · exact fun _ h => absurd h hc
  · exact fun _ h => absurd h hc
  · exact hc

theorem segments_dollar (rest : List Char) :
    segments ('$' :: '$' :: rest) = .literal ['$'] :: segments rest := by
  rw [segments]

theorem segments_braces {body : List Char} (hbody : '}' ∉ body) (rest : List Char) :
    segments ('$' :: '{' :: (body ++ '}' :: rest)) = referenceOf body :: segments rest := by
  obtain ⟨htake, hdrop⟩ : (body ++ '}' :: rest).takeWhile (· != '}') = body ∧
      (body ++ '}' :: rest).dropWhile (· != '}') = '}' :: rest :=
    Text.takeWhile_dropWhile_iff.2
      ⟨rfl, fun c hc => bne_iff_ne.2 fun heq => hbody (heq ▸ hc), Text.stopsAt_cons_iff.2 rfl⟩
  rw [segments]
  split
  · rename_i hnil
    rw [hdrop] at hnil
    cases hnil
  · rename_i hcons
    rw [hdrop] at hcons
    cases hcons
    rw [htake]

theorem segments_unclosed {rest : List Char} (hrest : '}' ∉ rest) :
    segments ('$' :: '{' :: rest) = .literal ['$', '{'] :: segments rest := by
  have hdrop : rest.dropWhile (· != '}') = [] :=
    List.dropWhile_eq_nil_iff.2 fun c hc => bne_iff_ne.2 fun heq => hrest (heq ▸ hc)
  rw [segments]
  split
  · rfl
  · rename_i hcons
    rw [hdrop] at hcons
    cases hcons

/-- A dollar sign that neither another one nor a brace follows. -/
theorem segments_of_head {rest : List Char}
    (hhead : ∀ c ∈ rest.head?, c ≠ '$' ∧ c ≠ '{') :
    segments ('$' :: rest) =
      if (rest.takeWhile Text.isWordChar).isEmpty then .literal ['$'] :: segments rest
      else .reference (rest.takeWhile Text.isWordChar) none ::
        segments (rest.dropWhile Text.isWordChar) := by
  rw [segments]
  · rintro more rfl
    exact (hhead '$' rfl).1 rfl
  · rintro more rfl
    exact (hhead '{' rfl).2 rfl

theorem segments_name {name rest : List Char} (hne : name ≠ [])
    (hword : ∀ c ∈ name, Text.isWordChar c = true) (hend : Text.StopsAt Text.isWordChar rest) :
    segments ('$' :: (name ++ rest)) = .reference name none :: segments rest := by
  obtain ⟨htake, hdrop⟩ := Text.takeWhile_dropWhile_iff.2 ⟨rfl, hword, hend⟩
  have hhead : ∀ c ∈ (name ++ rest).head?, c ≠ '$' ∧ c ≠ '{' := by
    intro c hc
    cases name with
    | nil => exact absurd rfl hne
    | cons d name =>
      cases hc
      have hd := hword c List.mem_cons_self
      exact ⟨fun heq => absurd (heq ▸ hd) (by decide +kernel),
        fun heq => absurd (heq ▸ hd) (by decide +kernel)⟩
  rw [segments_of_head hhead, htake, hdrop, if_neg (by simpa using hne)]

theorem segments_alone {rest : List Char}
    (hrest : ∀ c ∈ rest.head?, c ≠ '$' ∧ c ≠ '{' ∧ Text.isWordChar c = false) :
    segments ('$' :: rest) = .literal ['$'] :: segments rest := by
  have hstop : Text.StopsAt Text.isWordChar rest := fun c hc => (hrest c hc).2.2
  obtain ⟨htake, -⟩ := Text.takeWhile_dropWhile_iff.2
    ⟨(List.nil_append rest).symm, List.forall_mem_nil _, hstop⟩
  rw [segments_of_head fun c hc => ⟨(hrest c hc).1, (hrest c hc).2.1⟩, htake,
    if_pos List.isEmpty_nil]

/-- **Every path can be read.** -/
theorem reads_segments (cs : List Char) : Reads cs (segments cs) := by
  fun_induction segments cs with
  | case1 => exact .nil
  | case2 rest ih => exact .dollar ih
  | case3 rest hdrop ih =>
    have hrest : '}' ∉ rest := fun hmem =>
      absurd (List.dropWhile_eq_nil_iff.1 hdrop _ hmem) (by decide)
    exact .unclosed hrest ih
  | case4 rest c rest' hdrop hlt ih =>
    obtain ⟨happend, hbody, hstop⟩ := Text.takeWhile_append_dropWhile_stopsAt (· != '}') rest
    rw [hdrop] at happend hstop
    have hc : c = '}' := by simpa using Text.stopsAt_cons_iff.1 hstop
    have hclosed : '}' ∉ rest.takeWhile (· != '}') := fun hmem =>
      absurd (hbody _ hmem) (by decide)
    have hreads := Reads.braces hclosed (inBraces_referenceOf _) ih
    rw [hc] at happend
    rwa [← happend] at hreads
  | case5 rest hdollar hbrace hempty ih =>
    refine .alone ?_ ih
    cases rest with
    | nil => exact nofun
    | cons d rest =>
      rintro c ⟨⟩
      refine ⟨fun heq => hdollar rest (heq ▸ rfl), fun heq => hbrace rest (heq ▸ rfl), ?_⟩
      by_contra hd
      rw [List.takeWhile_cons_of_pos (by simpa using hd)] at hempty
      cases hempty
  | case6 rest hdollar hbrace hempty hlt ih =>
    obtain ⟨happend, hword, hstop⟩ :=
      Text.takeWhile_append_dropWhile_stopsAt Text.isWordChar rest
    have hreads := Reads.name (by simpa using hempty) hword hstop ih
    rwa [← happend] at hreads
  | case7 c rest hdollar hbrace hc ih => exact .char hc ih

/-- **No path can be read in two ways.** -/
theorem Reads.eq_segments {cs : List Char} {parts : List Segment} (h : Reads cs parts) :
    parts = segments cs := by
  induction h with
  | nil => rw [segments]
  | char hc _ ih => rw [segments_char hc, ← ih]
  | dollar _ ih => rw [segments_dollar, ← ih]
  | name hne hword hend _ ih => rw [segments_name hne hword hend, ← ih]
  | braces hbody hpart _ ih => rw [segments_braces hbody, inBraces_iff.1 hpart, ← ih]
  | unclosed hrest _ ih => rw [segments_unclosed hrest, ← ih]
  | alone hrest _ ih => rw [segments_alone hrest, ← ih]

theorem reads_iff {cs : List Char} {parts : List Segment} :
    Reads cs parts ↔ parts = segments cs := by
  refine ⟨Reads.eq_segments, ?_⟩
  rintro rfl
  exact reads_segments cs

/-! ### Replacing the references -/

/-- The text that a part of a path stands for; a variable that is not set and has no fallback stands
for nothing. -/
inductive StandsFor (env : Environment) : Segment → List Char → Prop where
  | literal (cs : List Char) : StandsFor env (.literal cs) cs
  | value {name : List Char} {value : String} (h : env (.ofList name) = some value)
      (fallback : Option (List Char)) :
      StandsFor env (.reference name fallback) value.toList
  | fallback {name : List Char} (h : env (.ofList name) = none) (text : List Char) :
      StandsFor env (.reference name (some text)) text

theorem value?_eq_some_iff {env : Environment} {part : Segment} {piece : List Char} :
    part.value? env = some piece ↔ StandsFor env part piece := by
  constructor
  · intro h
    cases part with
    | literal cs =>
      rw [Segment.value?, Option.some_inj] at h
      subst h
      exact .literal cs
    | reference name fallback =>
      rw [Segment.value?] at h
      cases hname : env (.ofList name) with
      | some value =>
        rw [hname] at h
        cases h
        exact .value hname fallback
      | none =>
        rw [hname, Option.map_none, Option.none_or] at h
        cases h
        exact .fallback hname piece
  · intro h
    cases h with
    | literal cs => rfl
    | value h fallback => rw [Segment.value?, h, Option.map_some, Option.some_or]
    | fallback h text => rw [Segment.value?, h, Option.map_none, Option.none_or]

theorem value?_eq_none_iff {env : Environment} {part : Segment} :
    part.value? env = none ↔ ∃ name, part = .reference name none ∧ env (.ofList name) = none := by
  cases part with
  | literal cs => exact iff_of_false nofun nofun
  | reference name fallback =>
    rw [Segment.value?, Option.or_eq_none_iff, Option.map_eq_none_iff]
    constructor
    · rintro ⟨hname, rfl⟩
      exact ⟨name, rfl, hname⟩
    · rintro ⟨_, ⟨⟩, hname⟩
      exact ⟨hname, rfl⟩

/-- The pieces of text for the parts of a path. -/
theorem mapM_value?_eq_some_iff {env : Environment} {parts : List Segment}
    {pieces : List (List Char)} :
    parts.mapM (Segment.value? env) = some pieces ↔ List.Forall₂ (StandsFor env) parts pieces := by
  rw [mapM_eq_some_iff]
  constructor
  · exact fun h => h.imp fun _ _ => value?_eq_some_iff.1
  · exact fun h => h.imp fun _ _ => value?_eq_some_iff.2

/-- **One part that stands for nothing is enough** to leave all of them. -/
theorem mapM_value?_eq_none_iff {env : Environment} {parts : List Segment} :
    parts.mapM (Segment.value? env) = none ↔
      ∃ name, .reference name none ∈ parts ∧ env (.ofList name) = none := by
  rw [mapM_eq_none_iff]
  constructor
  · rintro ⟨part, hmem, hpart⟩
    obtain ⟨name, rfl, hname⟩ := value?_eq_none_iff.1 hpart
    exact ⟨name, hmem, hname⟩
  · rintro ⟨name, hmem, hname⟩
    exact ⟨.reference name none, hmem, value?_eq_none_iff.2 ⟨name, rfl, hname⟩⟩

/-! ### The home directory -/

/-- What a tilde stands for: the home directory that the environment names, without one that on
record for the user's account, and without either the tilde itself. -/
inductive TildeStandsFor (env : Environment) (account : Option String) : String → Prop where
  | named {home : String} (h : env "HOME" = some home) (hne : home ≠ "") :
      TildeStandsFor env account home
  | recorded {home : String} (hunnamed : env "HOME" = none ∨ env "HOME" = some "")
      (h : account = some home) (hne : home ≠ "") : TildeStandsFor env account home
  | itself (hunnamed : env "HOME" = none ∨ env "HOME" = some "")
      (hunrecorded : account = none ∨ account = some "") : TildeStandsFor env account "~"

theorem nonempty?_eq_some_iff {home : Option String} {h : String} :
    nonempty? home = some h ↔ home = some h ∧ h ≠ "" := by
  simp [nonempty?, Option.filter_eq_some_iff]

theorem nonempty?_eq_none_iff {home : Option String} :
    nonempty? home = none ↔ home = none ∨ home = some "" := by
  cases home <;> simp [nonempty?, Option.filter_eq_none_iff]

/-- **A tilde stands for one text**, whatever the environment and the account. -/
theorem tildeStandsFor_iff {env : Environment} {account : Option String} {home : String} :
    TildeStandsFor env account home ↔ home = (home? env account).getD "~" := by
  constructor
  · intro h
    cases h with
    | named h hne =>
      rw [home?, nonempty?_eq_some_iff.2 ⟨h, hne⟩, Option.some_or, Option.getD_some]
    | recorded hunnamed h hne =>
      rw [home?, nonempty?_eq_none_iff.2 hunnamed, nonempty?_eq_some_iff.2 ⟨h, hne⟩,
        Option.none_or, Option.getD_some]
    | itself hunnamed hunrecorded =>
      rw [home?, nonempty?_eq_none_iff.2 hunnamed, nonempty?_eq_none_iff.2 hunrecorded,
        Option.none_or, Option.getD_none]
  · rintro rfl
    unfold home?
    cases hnamed : nonempty? (env "HOME") with
    | some home =>
      obtain ⟨h, hne⟩ := nonempty?_eq_some_iff.1 hnamed
      exact .named h hne
    | none =>
      have hunnamed := nonempty?_eq_none_iff.1 hnamed
      cases hrecorded : nonempty? account with
      | some home =>
        obtain ⟨h, hne⟩ := nonempty?_eq_some_iff.1 hrecorded
        exact .recorded hunnamed h hne
      | none => exact .itself hunnamed (nonempty?_eq_none_iff.1 hrecorded)

/-! ### Expanding a path -/

/-- A path that was written with a tilde, and whose text, once the references are replaced, leads on
from the tilde with a slash or ends there. -/
def LeadsFromHome (path : String) (text : List Char) : Prop :=
  path.toList.head? = some '~' ∧ (text = ['~'] ∨ ['~', '/'] <+: text)

theorem replaceTilde_of_tilde {text : List Char} (h : text = ['~'] ∨ ['~', '/'] <+: text)
    (home : Option String) :
    replaceTilde home text = (home.getD "~").toList ++ text.tail := by
  obtain rfl | ⟨rest, rfl⟩ := h
  · cases home <;> simp [replaceTilde]
  · cases home <;> simp [replaceTilde]

theorem replaceTilde_of_no_tilde {text : List Char} (h : ¬ (text = ['~'] ∨ ['~', '/'] <+: text))
    (home : Option String) : replaceTilde home text = text := by
  unfold replaceTilde
  split
  · exact absurd (.inl rfl) h
  · exact absurd (.inr ⟨_, rfl⟩) h
  · rfl

section

variable {env : Environment} {account : Option String} {path : String} {parts : List Segment}

/-- **A variable that is not set and has no fallback** leaves the path as it was written. -/
theorem expand_of_unset (hreads : Reads path.toList parts) {name : List Char}
    (hmem : .reference name none ∈ parts) (hunset : env (.ofList name) = none) :
    expand env account path = path := by
  have hnone : replaceReferences? env path.toList = none := by
    rw [replaceReferences?, ← hreads.eq_segments, mapM_value?_eq_none_iff.2 ⟨name, hmem, hunset⟩]
    rfl
  rw [expand, hnone]

/-- Where every part stands for something, the pieces take the places of the parts. -/
theorem expand_of_standsFor (hreads : Reads path.toList parts) {pieces : List (List Char)}
    (hpieces : List.Forall₂ (StandsFor env) parts pieces) :
    expand env account path =
      .ofList (if path.toList.head? = some '~' then replaceTilde (home? env account) pieces.flatten
        else pieces.flatten) := by
  have hsome : replaceReferences? env path.toList = some pieces.flatten := by
    rw [replaceReferences?, ← hreads.eq_segments, mapM_value?_eq_some_iff.2 hpieces,
      Option.map_some]
  rw [expand, hsome]

theorem expand_of_leadsFromHome (hreads : Reads path.toList parts) {pieces : List (List Char)}
    (hpieces : List.Forall₂ (StandsFor env) parts pieces)
    (hhome : LeadsFromHome path pieces.flatten) :
    expand env account path = (home? env account).getD "~" ++ .ofList pieces.flatten.tail := by
  obtain ⟨hwritten, htilde⟩ := hhome
  rw [expand_of_standsFor hreads hpieces, if_pos hwritten, replaceTilde_of_tilde htilde,
    String.ofList_append, String.ofList_toList]

theorem expand_of_not_leadsFromHome (hreads : Reads path.toList parts) {pieces : List (List Char)}
    (hpieces : List.Forall₂ (StandsFor env) parts pieces)
    (hhome : ¬ LeadsFromHome path pieces.flatten) :
    expand env account path = .ofList pieces.flatten := by
  rw [expand_of_standsFor hreads hpieces]
  split
  · rename_i hwritten
    rw [replaceTilde_of_no_tilde fun htilde => hhome ⟨hwritten, htilde⟩]
  · rfl

end

/-- **References are replaced all or none.** A path can be read in one way, whatever the
environment. If one of its references names a variable that is not set and has no fallback, the
path stays as it was written. Otherwise there is one piece of text for each part, a value, a
fallback or what the part says itself, and the path becomes the pieces one after another, as they
are. Then a tilde at the beginning of the path is the home directory that the environment names, or
else that of the user's account, and stays a tilde if there is neither. -/
theorem expand_all_or_none (path : String) :
    ∃ parts, (∀ ps, Reads path.toList ps ↔ ps = parts) ∧ ∀ env : Environment,
      ((∃ name, .reference name none ∈ parts ∧ env (.ofList name) = none) →
        ∀ account, expand env account path = path) ∧
      ((∀ name, .reference name none ∈ parts → env (.ofList name) ≠ none) →
        ∃ pieces, (∀ ps, List.Forall₂ (StandsFor env) parts ps ↔ ps = pieces) ∧ ∀ account,
          (LeadsFromHome path pieces.flatten →
            ∃ home, (∀ h, TildeStandsFor env account h ↔ h = home) ∧
              expand env account path = home ++ .ofList pieces.flatten.tail) ∧
          (¬ LeadsFromHome path pieces.flatten →
            expand env account path = .ofList pieces.flatten)) := by
  have hreads : Reads path.toList (segments path.toList) := reads_segments path.toList
  refine ⟨segments path.toList, fun _ => reads_iff, fun env => ⟨?_, fun hset => ?_⟩⟩
  · rintro ⟨name, hmem, hunset⟩ account
    exact expand_of_unset hreads hmem hunset
  · cases hmap : (segments path.toList).mapM (Segment.value? env) with
    | none =>
      obtain ⟨name, hmem, hunset⟩ := mapM_value?_eq_none_iff.1 hmap
      exact absurd hunset (hset name hmem)
    | some pieces =>
      have hpieces := mapM_value?_eq_some_iff.1 hmap
      have hunique : ∀ ps, List.Forall₂ (StandsFor env) (segments path.toList) ps ↔
          ps = pieces := by
        intro ps
        rw [← mapM_value?_eq_some_iff, hmap, Option.some_inj, eq_comm]
      refine ⟨pieces, hunique, fun account =>
        ⟨fun hhome => ?_, expand_of_not_leadsFromHome hreads hpieces⟩⟩
      exact ⟨_, fun _ => tildeStandsFor_iff, expand_of_leadsFromHome hreads hpieces hhome⟩

/-- A path that is given up after its tilde and two references could have been replaced, and one
whose values and fallback hold references and a tilde themselves: with a home directory in `HOME`,
with the account's in its place, and with none. -/
theorem expand_all_or_none_nested_references :
    let env := Environment.ofList [("HOME", "/home/u"), ("A", "$B/~"), ("B", "b")]
    let homeless := Environment.ofList [("HOME", ""), ("A", "$B/~"), ("B", "b")]
    let broken := "~/$A/$\x7bX:-x\x7d/$X/$B"
    let whole := "~/$A/$\x7bX:-$B\x7d/$$B"
    env "X" = none ∧ expand env (some "/root") broken = broken ∧
      (∀ name, .reference name none ∈ segments whole.toList → env (.ofList name) ≠ none) ∧
      expand env (some "/root") whole = "/home/u/$B/~/$B/$B" ∧
      expand homeless (some "/root") whole = "/root/$B/~/$B/$B" ∧
      expand homeless none whole = "~/$B/~/$B/$B" := by
  intro env homeless broken whole
  have hX : env "X" = none := by decide +kernel
  have hparts : segments whole.toList =
      [.literal ['~'], .literal ['/'], .reference ['A'] none, .literal ['/'],
        .reference ['X'] (some ['$', 'B']), .literal ['/'], .literal ['$'], .literal ['B']] := by
    decide +kernel
  have hset : ∀ {e : Environment}, e "A" = some "$B/~" →
      ∀ name, .reference name none ∈ segments whole.toList → e (.ofList name) ≠ none := by
    intro e hA name hmem hnone
    have hname : name = ['A'] := by simpa [hparts] using hmem
    rw [hname] at hnone
    cases hA.symm.trans hnone
  have hwhole : ∀ {e : Environment} {account : Option String} {home : String},
      e "A" = some "$B/~" → e "X" = none → TildeStandsFor e account home →
      expand e account whole = home ++ "/$B/~/$B/$B" := by
    intro e account home hA hX htilde
    obtain ⟨parts, hreads, hexpand⟩ := expand_all_or_none whole
    obtain rfl := (hreads _).1 (reads_segments _)
    obtain ⟨pieces, hpieces, haccount⟩ := (hexpand e).2 (hset hA)
    have hstands : List.Forall₂ (StandsFor e) (segments whole.toList)
        [['~'], ['/'], "$B/~".toList, ['/'], ['$', 'B'], ['/'], ['$'], ['B']] := by
      rw [hparts]
      exact .cons (.literal _) <| .cons (.literal _) <| .cons (.value hA none) <|
        .cons (.literal _) <| .cons (.fallback hX _) <| .cons (.literal _) <|
        .cons (.literal _) <| .cons (.literal _) .nil
    obtain rfl := (hpieces _).1 hstands
    obtain ⟨found, hfound, heq⟩ := (haccount account).1 ⟨by decide +kernel, .inr ⟨_, rfl⟩⟩
    rw [heq, ← (hfound home).1 htilde]
    rfl
  have hhome : homeless "HOME" = none ∨ homeless "HOME" = some "" := .inr (by decide +kernel)
  refine ⟨hX, ?_, hset (by decide +kernel), ?_, ?_, ?_⟩
  · obtain ⟨parts, hreads, hexpand⟩ := expand_all_or_none broken
    obtain rfl := (hreads _).1 (reads_segments _)
    exact (hexpand env).1 ⟨['X'], by decide +kernel, hX⟩ (some "/root")
  · have hnamed : env "HOME" = some "/home/u" := by decide +kernel
    exact hwhole (by decide +kernel) hX (.named hnamed (by decide))
  · exact hwhole (by decide +kernel) (by decide +kernel) (.recorded hhome rfl (by decide))
  · exact hwhole (by decide +kernel) (by decide +kernel) (.itself hhome (.inl rfl))

end Path

/-! ### Loading -/

/-- **A path with an unset variable leads to no other file**: besides the file at the path as it was
written, neither what stands elsewhere nor the other variables nor the account matter. -/
theorem Definition.load_of_unset {env env' : Path.Environment} {account account' : Option String}
    {path : String} {parts : List Path.Segment} (hreads : Path.Reads path.toList parts)
    {name : List Char} (hmem : .reference name none ∈ parts) (hunset : env (.ofList name) = none)
    (hunset' : env' (.ofList name) = none)
    {readFile readFile' : String → Except FileError ByteArray}
    (hfile : readFile path = readFile' path) :
    Definition.load readFile env account path = Definition.load readFile' env' account' path := by
  unfold Definition.load
  simp only [Path.expand_of_unset hreads hmem hunset, Path.expand_of_unset hreads hmem hunset',
    hfile]

end NodeFlags
