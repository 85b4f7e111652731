import Mathlib.Data.List.Forall2
import NodeFlags.Json.Reading
import NodeFlags.Proofs.JsonValue
import NodeFlags.Proofs.Listing

/-!
# Reading back what was written

One thing can be written in several ways: the entries of a dictionary stand in any
order, and a member of a record may be left out when it holds its default. So what is
written is described by a predicate on values, and `ReadBack` says that each value
that it allows is read as the one thing meant.

A record is described by its members (`Member`, `HasMembers`), its reader by its
fields. `Matches` pairs them, field by field, along the records that reading passes
through, from the record of defaults to the one that was written. The main result is
`readBack_record`: a record whose fields match its members is read back, whichever
of the members were left out.
-/

namespace NodeFlags.Json

variable {α : Type}

/-- Each value that is allowed is plain and is read as `a`. -/
def ReadBack (Allowed : Json → Prop) (read : Json → Read α) (a : α) : Prop :=
  ∀ v, Allowed v → v.Plain ∧ read v = .ok a

theorem readBack_text (s : String) : ReadBack (· = ofText s) readText s := by
  rintro v rfl
  exact ⟨plain_ofText s, rfl⟩

theorem readBack_switch (b : Bool) : ReadBack (· = .bool b) readSwitch b := by
  rintro v rfl
  exact ⟨plain_bool b, rfl⟩

theorem readBack_choice {names : List (String × α)} {name : String} {a : α}
    (h : names.lookup name = some a) : ReadBack (· = ofText name) (readChoice names) a := by
  rintro v rfl
  refine ⟨plain_ofText name, ?_⟩
  simp only [ofText, readChoice, readName, h]

/-- What is left out when there is nothing to write, and is never `null` else. -/
theorem readBack_ifSome {Allowed : α → Json → Prop} {read : Json → Read α}
    (h : ∀ a, ReadBack (Allowed a) read a) (hnull : ∀ a, ¬ Allowed a .null) (x : Option α) :
    ReadBack (fun v => ∃ a, x = some a ∧ Allowed a v) (readOptional read) x := by
  rintro v ⟨a, rfl, hv⟩
  obtain ⟨hplain, hread⟩ := h a v hv
  refine ⟨hplain, ?_⟩
  rw [readOptional, hread]
  · rfl
  · exact fun heq => hnull a (heq ▸ hv)

/-! ### Lists -/

/-- An item for each of `as`, in their order. -/
def HasItems (Allowed : α → Json → Prop) (as : List α) (v : Json) : Prop :=
  ∃ items, List.Forall₂ Allowed as items ∧ v = ofItems items

theorem readBack_list {Allowed : α → Json → Prop} {read : Json → Read α}
    (h : ∀ a, ReadBack (Allowed a) read a) (as : List α) :
    ReadBack (HasItems Allowed as) (readList read) as := by
  rintro v ⟨items, hitems, rfl⟩
  have hback : (∀ v ∈ items, v.Plain) ∧ items.mapM read = .ok as := by
    induction hitems with
    | nil => exact ⟨nofun, rfl⟩
    | cons hv _ ih =>
      obtain ⟨hplain, hread⟩ := h _ _ hv
      obtain ⟨hplains, hreads⟩ := ih
      refine ⟨List.forall_mem_cons.2 ⟨hplain, hplains⟩, ?_⟩
      rw [List.mapM_cons, hread, hreads]
      rfl
  refine ⟨plain_ofItems hback.1, ?_⟩
  rw [ofItems, readList, hback.2]
  rfl

/-! ### Dictionaries -/

/-- A member for each entry of a dictionary, in any order. -/
def HasEntries (write : α → Json) (d : Dict α) (v : Json) : Prop :=
  ∃ entries, List.Perm entries d.entries ∧ v = ofMembers (entries.map fun e => (e.1, write e.2))

theorem not_hasEntries_null (write : α → Json) (d : Dict α) : ¬ HasEntries write d .null :=
  fun ⟨_, _, h⟩ => nomatch h

theorem readEntries_map {write : α → Json} {read : Json → Read α} {entries : List (String × α)}
    (h : ∀ e ∈ entries, read (write e.2) = .ok e.2) (acc : Dict α) :
    readEntries read (entries.map fun e => (some e.1, write e.2)) acc =
      .ok (entries.foldl (fun acc e => acc.insert e.1 e.2) acc) := by
  induction entries generalizing acc with
  | nil => rfl
  | cons e es ih =>
    obtain ⟨he, hes⟩ := List.forall_mem_cons.1 h
    rw [List.map_cons, readEntries, he, List.foldl_cons, ← ih hes]
    rfl

theorem readBack_dict {write : α → Json} {read : Json → Read α}
    (h : ∀ a, ReadBack (· = write a) read a) (d : Dict α) :
    ReadBack (HasEntries write d) (readDict read) d := by
  rintro v ⟨entries, hperm, rfl⟩
  constructor
  · refine plain_ofMembers fun m hm => ?_
    obtain ⟨e, -, rfl⟩ := List.mem_map.1 hm
    exact (h e.2 _ rfl).1
  · have hentries : readEntries read (entries.map fun e => (some e.1, write e.2)) {} =
        .ok (Dict.ofList entries) := readEntries_map (fun e _ => (h e.2 _ rfl).2) {}
    rw [ofMembers, readDict, List.map_map]
    simp only [Function.comp_def]
    rw [hentries, Dict.ofList_of_perm hperm]
    rfl

/-! ### Records -/

/-- A member of a record: what may stand under its name, and whether it may be left out. -/
structure Member where
  name : String
  Allowed : Json → Prop
  Omissible : Prop

namespace Member

/-- A member that is never left out. -/
def always (name : String) (Allowed : Json → Prop) : Member :=
  ⟨name, Allowed, False⟩

/-- A member that is left out just when there is nothing to write. -/
def ifSome {β : Type} (name : String) (Allowed : β → Json → Prop) (x : Option β) : Member :=
  ⟨name, fun v => ∃ b, x = some b ∧ Allowed b v, x = none⟩

end Member

/-- Members in their order, without some that may be left out. -/
inductive Written : List Member → List (String × Json) → Prop where
  | nil : Written [] []
  | keep {m : Member} {ms : List Member} {v : Json} {kept : List (String × Json)} :
    m.Allowed v → Written ms kept → Written (m :: ms) ((m.name, v) :: kept)
  | drop {m : Member} {ms : List Member} {kept : List (String × Json)} :
    m.Omissible → Written ms kept → Written (m :: ms) kept

/-- An object of the members, of which some may be left out. -/
def HasMembers (members : List Member) (v : Json) : Prop :=
  ∃ kept, Written members kept ∧ v = ofMembers kept

theorem not_hasMembers_null (members : List Member) : ¬ HasMembers members .null :=
  fun ⟨_, _, h⟩ => nomatch h

/-- Fields and the members under their names lead from one record to another: what a
member allows takes its field on to the next record, and what may be left out has nothing
to change. -/
inductive Matches : List (Field Read Json α) → List Member → α → α → Prop where
  | nil (a : α) : Matches [] [] a a
  | cons {f : Field Read Json α} {m : Member} {fs : List (Field Read Json α)}
      {ms : List Member} {a next b : α} (name_eq : f.name = m.name)
      (read : ∀ v, m.Allowed v → v.Plain ∧ ∃ put, f.read v = .ok put ∧ put a = next)
      (leaveOut : m.Omissible → f.required = false ∧ next = a) :
    Matches fs ms next b → Matches (f :: fs) (m :: ms) a b

namespace Matches

variable {name : String} {Allowed : Json → Prop} {fs : List (Field Read Json α)}
  {ms : List Member} {a b : α} {β : Type} {read : Json → Read β} {put : α → β → α} {x : β}

theorem read_of_readBack (hback : ReadBack Allowed read x) (v : Json) (hv : Allowed v) :
    v.Plain ∧ ∃ f, (fun x a => put a x) <$> read v = .ok f ∧ f a = put a x := by
  obtain ⟨hplain, hread⟩ := hback v hv
  refine ⟨hplain, fun a => put a x, ?_, rfl⟩
  rw [hread]
  rfl

theorem mandatory (hback : ReadBack Allowed read x) (h : Matches fs ms (put a x) b) :
    Matches (.mandatory name read put :: fs) (.always name Allowed :: ms) a b :=
  .cons rfl (read_of_readBack hback) False.elim h

theorem optional {Omissible : Prop} (hback : ReadBack Allowed read x)
    (hdefault : Omissible → put a x = a) (h : Matches fs ms (put a x) b) :
    Matches (.optional name read put :: fs) (⟨name, Allowed, Omissible⟩ :: ms) a b :=
  .cons rfl (read_of_readBack hback) (fun ho => ⟨rfl, hdefault ho⟩) h

end Matches

/-! ### Reading records -/

/-- The field of a name, where each name stands once. -/
theorem find?_name {fields : List (Field Read Json α)} (hnames : (fields.map (·.name)).Nodup)
    {f : Field Read Json α} (hf : f ∈ fields) : fields.find? (·.name == f.name) = some f := by
  induction fields with
  | nil => exact absurd hf List.not_mem_nil
  | cons g gs ih =>
    obtain ⟨hg, hgs⟩ := List.nodup_cons.1 hnames
    rcases List.mem_cons.1 hf with rfl | hf
    · rw [List.find?_cons, beq_self_eq_true]
    · have hne : g.name ≠ f.name := fun heq => hg (List.mem_map.2 ⟨f, hf, heq.symm⟩)
      rw [List.find?_cons, beq_eq_false_iff_ne.2 hne]
      exact ih hgs hf

/-- What is there of a record is plain. -/
theorem Matches.plain {fields : List (Field Read Json α)} {members : List Member} {a b : α}
    (h : Matches fields members a b) {kept : List (String × Json)}
    (hkept : Written members kept) : ∀ m ∈ kept, m.2.Plain := by
  induction h generalizing kept with
  | nil =>
    cases hkept
    exact nofun
  | cons _ hread _ _ ih =>
    cases hkept with
    | keep hv hkept => exact List.forall_mem_cons.2 ⟨(hread _ hv).1, ih hkept⟩
    | drop _ hkept => exact ih hkept

/-- A member of a field that was not seen before is put into the record. -/
theorem readFields_cons {all : List (Field Read Json α)} {f : Field Read Json α}
    (hfind : all.find? (·.name == f.name) = some f) {seen : List String} (hnew : f.name ∉ seen)
    {v : Json} {put : α → α} (hread : f.read v = .ok put)
    (rest : List (Option String × Json)) (a : α) :
    readFields all ((some f.name, v) :: rest) seen a =
      readFields all rest (f.name :: seen) (put a) := by
  have hcontains : seen.contains f.name = false := by simpa using hnew
  rw [readFields, hfind]
  simp only [hcontains, Bool.false_eq_true, if_false, hread]
  rfl

/-- Reading what is there of the fields that are still due leads to the record that was
written, and of these fields all that must be there are seen. -/
theorem Matches.readFields_eq {all fields : List (Field Read Json α)} {members : List Member}
    {a b : α} (h : Matches fields members a b)
    (hall : ∀ f ∈ fields, all.find? (·.name == f.name) = some f)
    (hnames : (fields.map (·.name)).Nodup) {kept : List (String × Json)}
    (hkept : Written members kept) {seen : List String} (hseen : ∀ f ∈ fields, f.name ∉ seen) :
    ∃ seen', readFields all (kept.map fun m => (some m.1, m.2)) seen a = .ok (b, seen') ∧
      seen ⊆ seen' ∧ ∀ f ∈ fields, f.required = true → f.name ∈ seen' := by
  induction h generalizing kept seen with
  | nil =>
    cases hkept
    exact ⟨seen, rfl, List.Subset.refl seen, nofun⟩
  | @cons f m fs ms a next b hname hread hleave _ ih =>
    obtain ⟨hfind, hall⟩ := List.forall_mem_cons.1 hall
    obtain ⟨hother, hnames⟩ := List.nodup_cons.1 hnames
    obtain ⟨hnew, hseen⟩ := List.forall_mem_cons.1 hseen
    cases hkept with
    | @keep _ _ v kept hv hkept =>
      obtain ⟨-, put, hput, rfl⟩ := hread v hv
      have hseen' : ∀ g ∈ fs, g.name ∉ f.name :: seen := by
        intro g hg hmem
        rcases List.mem_cons.1 hmem with heq | hmem
        · exact hother (List.mem_map.2 ⟨g, hg, heq⟩)
        · exact hseen g hg hmem
      obtain ⟨seen', hfields, hsub, hrequired⟩ := ih hall hnames hkept hseen'
      obtain ⟨hself, hsub⟩ := List.cons_subset.1 hsub
      refine ⟨seen', ?_, hsub, List.forall_mem_cons.2 ⟨fun _ => hself, hrequired⟩⟩
      rw [List.map_cons, ← hname, readFields_cons hfind hnew hput]
      exact hfields
    | drop homit hkept =>
      obtain ⟨hfree, rfl⟩ := hleave homit
      obtain ⟨seen', hfields, hsub, hrequired⟩ := ih hall hnames hkept hseen
      refine ⟨seen', hfields, hsub, List.forall_mem_cons.2 ⟨fun hreq => ?_, hrequired⟩⟩
      exact absurd (hfree.symm.trans hreq) Bool.false_ne_true

/-- **A record is read back**, whichever of its members were left out. -/
theorem readBack_record {fields : List (Field Read Json α)} {members : List Member}
    {blank a : α} (hnames : (fields.map (·.name)).Nodup) (h : Matches fields members blank a)
    (record : String) :
    ReadBack (HasMembers members) (readRecord record fields blank) a := by
  rintro v ⟨kept, hkept, rfl⟩
  refine ⟨plain_ofMembers (h.plain hkept), ?_⟩
  obtain ⟨seen, hread, -, hrequired⟩ := h.readFields_eq (fun f hf => find?_name hnames hf) hnames
    hkept (fun f _ => List.not_mem_nil)
  have hmissing : firstMissing? fields seen = none := by
    rw [firstMissing?, Option.map_eq_none_iff, List.find?_eq_none]
    intro f hf hmiss
    obtain ⟨hreq, hunseen⟩ := Bool.and_eq_true_iff.1 hmiss
    have hmem : seen.contains f.name = true := List.contains_iff_mem.2 (hrequired f hf hreq)
    rw [hmem] at hunseen
    exact Bool.false_ne_true hunseen
  rw [ofMembers, readRecord, hread]
  simp only [bind, Except.bind, atEnd, if_true, hmissing]

end NodeFlags.Json
