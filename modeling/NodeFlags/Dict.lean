/-!
# Dictionaries

Finite maps from text keys, used for flag maps and for the component catalog.

A dictionary is kept as its list of entries in strictly ascending key order
(keys are compared by code points, which is the order of their UTF-8 bytes).
The order is part of the type, so two dictionaries that answer every lookup
alike are equal (`Dict.ext_get?`), and writing the entries out one after another
is already the canonical listing.

Each operation comes with its equation through the view `get?`:
`get?_insert`, `get?_insertIfAbsent`, `get?_erase`, `get?_filter`, and for whole
layers `get?_ofList`, `get?_overlay`, `get?_fill`.
-/

namespace NodeFlags

/-- A finite map from text keys to `α`, as its entries in strictly ascending key order. -/
structure Dict (α : Type) where
  /-- The entries, each key once. -/
  entries : List (String × α)
  /-- The keys ascend. -/
  ascending : entries.Pairwise (fun a b => a.1 < b.1) := by exact List.Pairwise.nil

namespace Dict

variable {α : Type}

/-! ### Order of keys -/

theorem key_lt_of_ne_of_not_lt {a b : String} (hne : a ≠ b) (hlt : ¬ a < b) : b < a := by
  rcases String.le_total a b with h | h
  · exact absurd (String.le_antisymm h (String.not_lt.1 hlt)) hne
  · exact String.not_le.1 fun h' => hne (String.le_antisymm h' h)

/-! ### Operations -/

/-- The dictionary without entries. -/
def empty : Dict α where
  entries := []

instance : Inhabited (Dict α) := ⟨empty⟩

instance : EmptyCollection (Dict α) := ⟨empty⟩

instance [DecidableEq α] : DecidableEq (Dict α) := fun a b =>
  if h : a.entries = b.entries then
    .isTrue (by cases a; cases b; cases h; rfl)
  else
    .isFalse fun e => h (e ▸ rfl)

/-- The value under `key`. -/
def get? (d : Dict α) (key : String) : Option α :=
  d.entries.lookup key

/-- Whether there is an entry under `key`. -/
def contains (d : Dict α) (key : String) : Bool :=
  (d.get? key).isSome

/-- The number of entries. -/
def size (d : Dict α) : Nat :=
  d.entries.length

/-- Whether there are no entries. -/
def isEmpty (d : Dict α) : Bool :=
  d.entries.isEmpty

/-- The keys, ascending. -/
def keys (d : Dict α) : List String :=
  d.entries.map (·.1)

/-- Put an entry at its place in an ascending list, replacing one with the same key. -/
def insertEntry (key : String) (value : α) : List (String × α) → List (String × α)
  | [] => [(key, value)]
  | e :: rest =>
    if key < e.1 then (key, value) :: e :: rest
    else if key = e.1 then (key, value) :: rest
    else e :: insertEntry key value rest

theorem mem_insertEntry {key : String} {value : α} {l : List (String × α)} {e : String × α}
    (h : e ∈ insertEntry key value l) : e = (key, value) ∨ e ∈ l := by
  induction l with
  | nil => simpa [insertEntry] using h
  | cons a rest ih =>
    unfold insertEntry at h
    split at h
    · simpa using h
    · split at h
      · rcases List.mem_cons.1 h with h | h
        · exact .inl h
        · exact .inr (List.mem_cons_of_mem _ h)
      · rcases List.mem_cons.1 h with h | h
        · exact .inr (h ▸ List.mem_cons_self)
        · exact (ih h).imp id (List.mem_cons_of_mem _)

theorem ascending_insertEntry {key : String} {value : α} {l : List (String × α)}
    (h : l.Pairwise (fun a b => a.1 < b.1)) :
    (insertEntry key value l).Pairwise (fun a b => a.1 < b.1) := by
  induction l with
  | nil => simp [insertEntry]
  | cons a rest ih =>
    obtain ⟨ha, hrest⟩ := List.pairwise_cons.1 h
    unfold insertEntry
    split
    · rename_i hlt
      refine List.pairwise_cons.2 ⟨fun e he => ?_, h⟩
      rcases List.mem_cons.1 he with rfl | he
      · exact hlt
      · exact String.lt_trans hlt (ha e he)
    · split
      · rename_i heq
        exact List.pairwise_cons.2 ⟨fun e he => heq ▸ ha e he, hrest⟩
      · rename_i hlt hne
        refine List.pairwise_cons.2 ⟨fun e he => ?_, ih hrest⟩
        rcases mem_insertEntry he with rfl | he
        · exact key_lt_of_ne_of_not_lt hne hlt
        · exact ha e he

/-- Set the entry under `key`, overwriting any previous value. -/
def insert (d : Dict α) (key : String) (value : α) : Dict α where
  entries := insertEntry key value d.entries
  ascending := ascending_insertEntry d.ascending

/-- Set the entry under `key` unless there is one. -/
def insertIfAbsent (d : Dict α) (key : String) (value : α) : Dict α :=
  if d.contains key then d else d.insert key value

/-- Keep the entries that pass `keep`. -/
def filter (d : Dict α) (keep : String → α → Bool) : Dict α where
  entries := d.entries.filter fun e => keep e.1 e.2
  ascending := d.ascending.filter _

/-- Remove the entry under `key`, if there is one. -/
def erase (d : Dict α) (key : String) : Dict α :=
  d.filter fun k _ => k != key

/-- Set every entry of `layer`, overwriting what `d` holds. -/
def overlay (d layer : Dict α) : Dict α :=
  layer.entries.foldl (fun acc e => acc.insert e.1 e.2) d

/-- The dictionary of a list of pairs; of two pairs with one key the later wins. -/
def ofList (pairs : List (String × α)) : Dict α :=
  pairs.foldl (fun acc e => acc.insert e.1 e.2) empty

/-- Set every entry of `source` whose key `d` lacks, and count them. -/
def fill (d source : Dict α) : Dict α × Nat :=
  source.entries.foldl
    (fun acc e => if acc.1.contains e.1 then acc else (acc.1.insert e.1 e.2, acc.2 + 1))
    (d, 0)

/-! ### Lookup -/

theorem ext_entries {a b : Dict α} (h : a.entries = b.entries) : a = b := by
  cases a; cases b; cases h; rfl

@[simp] theorem get?_empty (key : String) : (empty : Dict α).get? key = none := rfl

theorem lookup_cons_eq_ite (k : String) (e : String × α) (l : List (String × α)) :
    (e :: l).lookup k = if k = e.1 then some e.2 else l.lookup k := by
  by_cases h : k = e.1
  · rw [if_pos h, List.lookup_cons, beq_iff_eq.2 h]
  · rw [if_neg h, List.lookup_cons, beq_eq_false_iff_ne.2 h]

theorem lookup_eq_none_of_forall_ne {key : String} {l : List (String × α)}
    (h : ∀ e ∈ l, e.1 ≠ key) : l.lookup key = none := by
  induction l with
  | nil => rfl
  | cons a rest ih =>
    rw [lookup_cons_eq_ite, if_neg fun hk => h a List.mem_cons_self hk.symm]
    exact ih fun e he => h e (List.mem_cons_of_mem _ he)

theorem lookup_insertEntry (key k : String) (value : α) (l : List (String × α)) :
    (insertEntry key value l).lookup k = if k = key then some value else l.lookup k := by
  induction l with
  | nil => simp [insertEntry, lookup_cons_eq_ite]
  | cons a rest ih =>
    unfold insertEntry
    split
    · simp [lookup_cons_eq_ite]
    · split
      · rename_i heq
        by_cases h : k = key <;> simp [lookup_cons_eq_ite, h, ← heq]
      · rename_i hne
        rw [lookup_cons_eq_ite, lookup_cons_eq_ite, ih]
        by_cases h : k = key
        · simp [h, hne]
        · simp [h]

@[simp] theorem get?_insert (d : Dict α) (key k : String) (value : α) :
    (d.insert key value).get? k = if k = key then some value else d.get? k :=
  lookup_insertEntry key k value d.entries

theorem get?_insertIfAbsent (d : Dict α) (key k : String) (value : α) :
    (d.insertIfAbsent key value).get? k =
      if k = key then some ((d.get? key).getD value) else d.get? k := by
  unfold insertIfAbsent contains
  cases h : d.get? key with
  | none => simp
  | some v =>
    by_cases hk : k = key
    · subst hk; simp [h]
    · simp [hk]

theorem lookup_filter_of_ascending {l : List (String × α)} {p : String → α → Bool} (k : String)
    (h : l.Pairwise (fun a b => a.1 < b.1)) :
    (l.filter fun e => p e.1 e.2).lookup k = (l.lookup k).filter (p k) := by
  induction l with
  | nil => rfl
  | cons a rest ih =>
    obtain ⟨ha, hrest⟩ := List.pairwise_cons.1 h
    have hnone : rest.lookup a.1 = none :=
      lookup_eq_none_of_forall_ne fun e he heq => String.lt_irrefl _ (heq ▸ ha e he)
    by_cases hk : k = a.1
    · subst hk
      by_cases hp : p a.1 a.2 <;>
        simp [hp, lookup_cons_eq_ite, ih hrest, hnone, Option.filter]
    · by_cases hp : p a.1 a.2 <;>
        simp [hp, lookup_cons_eq_ite, ih hrest, hk]

@[simp] theorem get?_filter (d : Dict α) (p : String → α → Bool) (k : String) :
    (d.filter p).get? k = (d.get? k).filter (p k) :=
  lookup_filter_of_ascending k d.ascending

@[simp] theorem get?_erase (d : Dict α) (key k : String) :
    (d.erase key).get? k = if k = key then none else d.get? k := by
  unfold erase
  rw [get?_filter]
  by_cases h : k = key
  · subst h; cases d.get? k <;> simp [Option.filter]
  · cases d.get? k <;> simp [Option.filter, h]

theorem contains_eq_isSome (d : Dict α) (key : String) :
    d.contains key = (d.get? key).isSome := rfl

/-! ### Lookup in layers -/

theorem get?_foldl_insert (l : List (String × α)) (d : Dict α) (k : String) :
    (l.foldl (fun acc e => acc.insert e.1 e.2) d).get? k = (l.reverse.lookup k).or (d.get? k) := by
  induction l generalizing d with
  | nil => rfl
  | cons a rest ih =>
    rw [List.foldl_cons, ih, get?_insert, List.reverse_cons, List.lookup_append,
      lookup_cons_eq_ite]
    by_cases h : k = a.1
    · rw [if_pos h, if_pos h, Option.or_assoc, Option.some_or]
    · rw [if_neg h, if_neg h, Option.or_assoc]
      rfl

/-- Each key of an ascending list stands once, so it does not matter from which end one looks. -/
theorem lookup_reverse_of_ascending {l : List (String × α)} (k : String)
    (h : l.Pairwise (fun a b => a.1 < b.1)) : l.reverse.lookup k = l.lookup k := by
  induction l with
  | nil => rfl
  | cons a rest ih =>
    obtain ⟨ha, hrest⟩ := List.pairwise_cons.1 h
    rw [List.reverse_cons, List.lookup_append, ih hrest, lookup_cons_eq_ite, lookup_cons_eq_ite]
    by_cases hk : k = a.1
    · rw [hk, lookup_eq_none_of_forall_ne fun e he heq => String.lt_irrefl _ (heq ▸ ha e he)]
      simp
    · rw [if_neg hk, if_neg hk]
      exact Option.or_none

theorem get?_ofList (pairs : List (String × α)) (k : String) :
    (ofList pairs).get? k = pairs.reverse.lookup k := by
  unfold ofList
  rw [get?_foldl_insert, get?_empty, Option.or_none]

@[simp] theorem get?_overlay (d layer : Dict α) (k : String) :
    (d.overlay layer).get? k = (layer.get? k).or (d.get? k) := by
  unfold overlay
  rw [get?_foldl_insert, lookup_reverse_of_ascending k layer.ascending]
  rfl

theorem get?_foldl_fill (l : List (String × α)) (acc : Dict α × Nat) (k : String) :
    (l.foldl (fun acc e =>
      if acc.1.contains e.1 then acc else (acc.1.insert e.1 e.2, acc.2 + 1)) acc).1.get? k =
      (acc.1.get? k).or (l.lookup k) := by
  induction l generalizing acc with
  | nil => exact Option.or_none.symm
  | cons a rest ih =>
    rw [List.foldl_cons, ih, lookup_cons_eq_ite]
    by_cases hc : acc.1.contains a.1 = true
    · rw [if_pos hc]
      by_cases hk : k = a.1
      · obtain ⟨v, hv⟩ := Option.isSome_iff_exists.1 hc
        rw [hk, hv, Option.some_or, Option.some_or]
      · rw [if_neg hk]
    · rw [if_neg hc, get?_insert]
      by_cases hk : k = a.1
      · have hnone : acc.1.get? a.1 = none := by simpa [contains] using hc
        rw [if_pos hk, if_pos hk, hk, hnone, Option.some_or, Option.none_or]
      · rw [if_neg hk, if_neg hk]

@[simp] theorem get?_fill (d source : Dict α) (k : String) :
    (d.fill source).1.get? k = (d.get? k).or (source.get? k) :=
  get?_foldl_fill source.entries (d, 0) k

/-! ### Equality by lookup -/

theorem mem_of_lookup_eq_some {l : List (String × α)} {k : String} {v : α}
    (h : l.lookup k = some v) : (k, v) ∈ l := by
  induction l with
  | nil => simp at h
  | cons a rest ih =>
    rw [lookup_cons_eq_ite] at h
    split at h
    · rename_i hk
      cases h
      exact hk ▸ List.mem_cons_self
    · exact List.mem_cons_of_mem _ (ih h)

theorem eq_of_ascending_of_lookup {l m : List (String × α)}
    (hl : l.Pairwise (fun a b => a.1 < b.1)) (hm : m.Pairwise (fun a b => a.1 < b.1))
    (h : ∀ k, l.lookup k = m.lookup k) : l = m := by
  induction l generalizing m with
  | nil =>
    cases m with
    | nil => rfl
    | cons b _ => simpa [lookup_cons_eq_ite] using h b.1
  | cons a rest ih =>
    cases m with
    | nil => simpa [lookup_cons_eq_ite] using h a.1
    | cons b tail =>
      obtain ⟨ha, hrest⟩ := List.pairwise_cons.1 hl
      obtain ⟨hb, htail⟩ := List.pairwise_cons.1 hm
      have hab : a = b := by
        have h1 : a ∈ b :: tail :=
          mem_of_lookup_eq_some (by rw [← h, lookup_cons_eq_ite, if_pos rfl])
        have h2 : b ∈ a :: rest :=
          mem_of_lookup_eq_some (by rw [h, lookup_cons_eq_ite, if_pos rfl])
        rcases List.mem_cons.1 h1 with h1 | h1
        · exact h1
        · rcases List.mem_cons.1 h2 with h2 | h2
          · exact h2.symm
          · exact absurd (ha b h2) (String.lt_asymm (hb a h1))
      subst hab
      congr 1
      refine ih hrest htail fun k => ?_
      have hk := h k
      rw [lookup_cons_eq_ite, lookup_cons_eq_ite] at hk
      by_cases he : k = a.1
      · rw [he, lookup_eq_none_of_forall_ne fun e hm heq => String.lt_irrefl _ (heq ▸ ha e hm),
          lookup_eq_none_of_forall_ne fun e hm heq => String.lt_irrefl _ (heq ▸ hb e hm)]
      · simpa [he] using hk

/-- **Dictionaries that answer every lookup alike are equal.** -/
theorem ext_get? {a b : Dict α} (h : ∀ k, a.get? k = b.get? k) : a = b :=
  ext_entries (eq_of_ascending_of_lookup a.ascending b.ascending h)

end Dict

end NodeFlags
