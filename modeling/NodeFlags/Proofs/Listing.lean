import Mathlib.Data.List.Nodup
import NodeFlags.Dict

/-!
# Listings of a dictionary

A dictionary can be gone through in any order: a listing is a permutation of its
entries. Each key stands once in it, so looking a key up in a listing, and writing a
listing into another dictionary, come to the same whatever the order
(`lookup_of_perm`, `foldl_insert_of_perm`). Sorted by its keys, every listing is the
list of the entries (`eq_entries_of_perm_of_sorted`).
-/

namespace NodeFlags.Dict

variable {α : Type}

theorem nodup_keys (d : Dict α) : (d.entries.map (·.1)).Nodup :=
  List.pairwise_map.2 (d.ascending.imp fun hlt => String.ne_of_lt hlt)

/-- Where each key stands once, the order of the entries does not matter. -/
theorem lookup_eq_of_perm {l m : List (String × α)} (h : l.Perm m) (hkeys : (l.map (·.1)).Nodup)
    (key : String) : l.lookup key = m.lookup key := by
  induction h with
  | nil => rfl
  | cons e _ ih =>
    obtain ⟨-, hkeys⟩ := List.nodup_cons.1 hkeys
    rw [lookup_cons_eq_ite, lookup_cons_eq_ite, ih hkeys]
  | swap e f l =>
    obtain ⟨hmem, -⟩ := List.nodup_cons.1 hkeys
    have hne : e.1 ≠ f.1 := fun heq => hmem (List.mem_map.2 ⟨e, List.mem_cons_self, heq⟩)
    simp only [lookup_cons_eq_ite]
    by_cases he : key = e.1
    · rw [if_pos he, if_neg (he ▸ hne), if_pos he]
    · rw [if_neg he, if_neg he]
  | trans hlm _ ihlm ihmn =>
    exact (ihlm hkeys).trans (ihmn ((hlm.map _).nodup_iff.1 hkeys))

variable {d : Dict α} {listing : List (String × α)}

theorem lookup_of_perm (h : listing.Perm d.entries) (key : String) :
    listing.lookup key = d.get? key :=
  lookup_eq_of_perm h ((h.map _).nodup_iff.2 (nodup_keys d)) key

/-- The entries of a dictionary, written into another one in any order. -/
theorem foldl_insert_of_perm (h : listing.Perm d.entries) (onto : Dict α) :
    listing.foldl (fun acc e => acc.insert e.1 e.2) onto = onto.overlay d := by
  refine ext_get? fun key => ?_
  rw [get?_foldl_insert, get?_overlay, lookup_of_perm ((List.reverse_perm listing).trans h)]

/-- The entries of a dictionary make the dictionary, in whatever order they come. -/
theorem ofList_of_perm (h : listing.Perm d.entries) : ofList listing = d := by
  refine ext_get? fun key => ?_
  rw [get?_ofList, lookup_of_perm ((List.reverse_perm listing).trans h)]

theorem mem_entries_iff {key : String} {value : α} :
    (key, value) ∈ d.entries ↔ d.get? key = some value := by
  refine ⟨fun h => ?_, mem_of_lookup_eq_some⟩
  obtain ⟨before, after, hentries⟩ := List.append_of_mem h
  -- a listing in which the entry stands first
  have hperm : ((key, value) :: (before ++ after)).Perm d.entries := by
    rw [hentries]
    exact List.perm_middle.symm
  rw [← lookup_of_perm hperm key, lookup_cons_eq_ite, if_pos rfl]

/-- **A listing that is sorted by its keys is the list of the entries.** -/
theorem eq_entries_of_perm_of_sorted (h : listing.Perm d.entries)
    (hsorted : listing.Pairwise fun e f => e.1 ≤ f.1) : listing = d.entries := by
  have hentries : d.entries.Pairwise fun e f => e.1 ≤ f.1 :=
    d.ascending.imp fun hlt => String.not_lt.1 (String.lt_asymm hlt)
  refine List.Perm.eq_of_pairwise (fun e f he hf hef hfe => ?_) hsorted hentries h
  -- of two entries with one key there is but one
  have hkey : e.1 = f.1 := String.le_antisymm hef hfe
  have hvalue : d.get? e.1 = some e.2 := mem_entries_iff.1 (h.mem_iff.1 he)
  rw [hkey, mem_entries_iff.1 hf] at hvalue
  exact Prod.ext hkey (Option.some.inj hvalue).symm

end NodeFlags.Dict
