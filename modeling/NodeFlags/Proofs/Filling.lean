import Mathlib.Data.Finset.Card
import NodeFlags.Flag.Map
import NodeFlags.Proofs.Listing

/-!
# Filling gaps

A dictionary is filled up by a walk over the entries of another one, its source. A step
looks at the dictionary as it is by then, sets the entry if its key is missing, and
counts it (`Dict.fillStep`). The entries come in no particular order.

What is set and what is counted go together from step to step: the count grows with the
number of entries (`Dict.size_foldl_fillStep`). So the order of the walk does not matter
for either of them (`Dict.fillFrom_of_perm`), and the count at the end is that of the keys
by which the union of the two sets of keys exceeds the first (`Dict.count_fill`).

Lookups in a dictionary that was filled up go to the dictionary first and to the source
then, as through layers. So it does not matter either which of three layers are put
together first (`Dict.fill_fill`), and the lower ones can be put together once for many
dictionaries above them.
-/

namespace NodeFlags.Dict

variable {α : Type}

/-! ### The set of the keys -/

/-- The set of the keys. -/
def domain (d : Dict α) : Finset String :=
  d.keys.toFinset

theorem mem_domain_iff {d : Dict α} {key : String} :
    key ∈ d.domain ↔ ∃ value, d.get? key = some value := by
  rw [domain, keys, List.mem_toFinset, List.mem_map]
  constructor
  · rintro ⟨e, he, rfl⟩
    exact ⟨e.2, mem_entries_iff.1 he⟩
  · rintro ⟨value, hvalue⟩
    exact ⟨(key, value), mem_entries_iff.2 hvalue, rfl⟩

theorem card_domain (d : Dict α) : d.domain.card = d.size := by
  have hkeys : d.keys.Nodup := nodup_keys d
  rw [domain, List.toFinset_card_of_nodup hkeys, keys, List.length_map, size]

theorem domain_insert (d : Dict α) (key : String) (value : α) :
    (d.insert key value).domain = Insert.insert key d.domain := by
  ext k
  rw [Finset.mem_insert, mem_domain_iff, mem_domain_iff, get?_insert]
  by_cases hk : k = key
  · simp [hk]
  · simp [hk]

/-- A new key makes a dictionary longer by one entry. -/
theorem size_insert_of_not_contains {d : Dict α} {key : String} (h : d.contains key = false)
    (value : α) : (d.insert key value).size = d.size + 1 := by
  have hnew : key ∉ d.domain := by
    intro hmem
    obtain ⟨v, hv⟩ := mem_domain_iff.1 hmem
    rw [contains, hv] at h
    cases h
  rw [← card_domain, domain_insert, Finset.card_insert_of_notMem hnew, card_domain]

theorem domain_fill (d source : Dict α) :
    (d.fill source).1.domain = d.domain ∪ source.domain := by
  ext k
  rw [Finset.mem_union, mem_domain_iff, mem_domain_iff, mem_domain_iff, get?_fill]
  cases d.get? k <;> simp

/-! ### The walk -/

/-- A step of the walk: an entry is set if its key is missing, and counted if it was set. -/
def fillStep (acc : Dict α × Nat) (e : String × α) : Dict α × Nat :=
  (acc.1.insertIfAbsent e.1 e.2, if acc.1.contains e.1 then acc.2 else acc.2 + 1)

/-- Fill a dictionary up from entries as they come, and count those that are set. -/
def fillFrom (d : Dict α) (listing : List (String × α)) : Dict α × Nat :=
  listing.foldl fillStep (d, 0)

theorem fillStep_eq (acc : Dict α × Nat) (e : String × α) :
    fillStep acc e = if acc.1.contains e.1 then acc else (acc.1.insert e.1 e.2, acc.2 + 1) := by
  unfold fillStep insertIfAbsent
  split <;> rfl

theorem fillFrom_entries (d source : Dict α) : d.fillFrom source.entries = d.fill source := by
  unfold fillFrom fill
  congr 1
  funext acc e
  exact fillStep_eq acc e

/-- A step that sets an entry counts it, and no other step does. -/
theorem size_fillStep (acc : Dict α × Nat) (e : String × α) :
    (fillStep acc e).1.size + acc.2 = acc.1.size + (fillStep acc e).2 := by
  rw [fillStep_eq]
  cases hc : acc.1.contains e.1 with
  | true => rfl
  | false =>
    show (acc.1.insert e.1 e.2).size + acc.2 = acc.1.size + (acc.2 + 1)
    rw [size_insert_of_not_contains hc]
    omega

/-- **The count grows with the dictionary**, whatever the entries are and wherever the walk
stands. -/
theorem size_foldl_fillStep (listing : List (String × α)) (acc : Dict α × Nat) :
    (listing.foldl fillStep acc).1.size + acc.2 =
      acc.1.size + (listing.foldl fillStep acc).2 := by
  induction listing generalizing acc with
  | nil => rfl
  | cons e rest ih =>
    have hstep := size_fillStep acc e
    have hrest := ih (fillStep acc e)
    rw [List.foldl_cons]
    omega

theorem size_fillFrom (d : Dict α) (listing : List (String × α)) :
    (d.fillFrom listing).1.size = d.size + (d.fillFrom listing).2 :=
  size_foldl_fillStep listing (d, 0)

theorem get?_fillFrom (d : Dict α) (listing : List (String × α)) (key : String) :
    (d.fillFrom listing).1.get? key = (d.get? key).or (listing.lookup key) := by
  have hstep : (fillStep : Dict α × Nat → String × α → Dict α × Nat) =
      fun acc e => if acc.1.contains e.1 then acc else (acc.1.insert e.1 e.2, acc.2 + 1) :=
    funext₂ fillStep_eq
  rw [fillFrom, hstep, get?_foldl_fill]

/-- **The order of the walk does not matter**, neither for what is set nor for the count. -/
theorem fillFrom_of_perm {source : Dict α} {listing : List (String × α)}
    (h : listing.Perm source.entries) (d : Dict α) : d.fillFrom listing = d.fill source := by
  have hfilled : (d.fillFrom listing).1 = (d.fillFrom source.entries).1 := by
    refine ext_get? fun key => ?_
    rw [get?_fillFrom, get?_fillFrom, lookup_of_perm h]
    rfl
  have hcount : (d.fillFrom listing).2 = (d.fillFrom source.entries).2 := by
    have hlisting := size_fillFrom d listing
    have hentries := size_fillFrom d source.entries
    rw [hfilled] at hlisting
    omega
  rw [← fillFrom_entries]
  exact Prod.ext hfilled hcount

/-! ### Layers -/

theorem size_fill (d source : Dict α) :
    (d.fill source).1.size = d.size + (d.fill source).2 := by
  rw [← fillFrom_entries]
  exact size_fillFrom d source.entries

/-- **What is counted are the keys that were missing.** -/
theorem count_fill (d source : Dict α) :
    (d.fill source).2 = (source.domain \ d.domain).card := by
  have hsize : (d.fill source).1.size = (source.domain \ d.domain).card + d.size := by
    rw [← card_domain, ← card_domain, domain_fill, Finset.card_sdiff_add_card, Finset.union_comm]
  have hgrowth := size_fill d source
  omega

/-- **Of three layers any two neighbours can be put together first.** -/
theorem fill_fill (d a b : Dict α) :
    ((d.fill a).1.fill b).1 = (d.fill (a.fill b).1).1 := by
  refine ext_get? fun key => ?_
  rw [get?_fill, get?_fill, get?_fill, get?_fill, Option.or_assoc]

/-- **Filling gaps is a union in which the left side is kept**, and it tells how much it adds.
Whatever the order in which the entries of `a` come, the outcome is the same: a key has the value
that `t` holds, be it the empty one; a key that `t` lacks has the value that `a` holds, or none.
The count is the number of the keys of `a` that `t` lacks, and by that number the dictionary grows.
Filling up from `a` and then from `b` comes to filling up from `a` filled up from `b`. -/
theorem fill_is_left_biased_union (t a b : Dict α) :
    (∀ listing, listing.Perm a.entries → t.fillFrom listing = t.fill a) ∧
    (∀ key value, t.get? key = some value → (t.fill a).1.get? key = some value) ∧
    (∀ key, t.get? key = none → (t.fill a).1.get? key = a.get? key) ∧
    (t.fill a).2 = (a.domain \ t.domain).card ∧
    (t.fill a).1.size = t.size + (t.fill a).2 ∧
    ((t.fill a).1.fill b).1 = (t.fill (a.fill b).1).1 := by
  refine ⟨fun listing h => fillFrom_of_perm h t, fun key value h => ?_, fun key h => ?_,
    count_fill t a, size_fill t a, fill_fill t a b⟩
  · rw [get?_fill, h, Option.some_or]
  · rw [get?_fill, h, Option.none_or]

/-- A flag with the empty value, one that both maps hold, and one that is missing, with the entries
of the source in an order of their own and a third layer below. -/
theorem fill_is_left_biased_union_blank_flag :
    let t : FlagMap := .ofList [("--é", "1"), ("--max-pods", "")]
    let a : FlagMap := .ofList [("--a", "x"), ("--max-pods", "110"), ("--é", "2")]
    let b : FlagMap := .ofList [("--a", "y"), ("--b", "z")]
    let listing := [("--é", "2"), ("--a", "x"), ("--max-pods", "110")]
    listing.Perm a.entries ∧ t.fillFrom listing = t.fill a ∧
      t.get? "--max-pods" = some "" ∧ (t.fill a).1.get? "--max-pods" = some "" ∧
      t.get? "--a" = none ∧ (t.fill a).1.get? "--a" = some "x" ∧
      (t.fill a).2 = 1 ∧ (t.fill a).1.size = 3 ∧
      ((t.fill a).1.fill b).1 = (t.fill (a.fill b).1).1 := by
  intro t a b listing
  have hperm : listing.Perm a.entries := by decide +kernel
  have hblank : t.get? "--max-pods" = some "" := by decide +kernel
  have hmissing : t.get? "--a" = none := by decide +kernel
  have hcount : (a.domain \ t.domain).card = 1 := by decide +kernel
  have ht : t.size = 2 := by decide +kernel
  obtain ⟨horder, hkept, hadded, hnumber, hgrowth, hlayers⟩ := fill_is_left_biased_union t a b
  rw [hcount] at hnumber
  rw [hnumber, ht] at hgrowth
  exact ⟨hperm, horder listing hperm, hblank, hkept _ _ hblank, hmissing,
    (hadded _ hmissing).trans (by decide +kernel), hnumber, hgrowth, hlayers⟩

end NodeFlags.Dict
