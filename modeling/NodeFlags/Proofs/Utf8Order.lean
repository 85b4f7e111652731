import Mathlib.Data.String.Basic

/-!
# The order of UTF-8 bytes

Texts are ordered by their code points. Written in UTF-8 they are ordered alike
(`Text.bytes_lt_bytes_iff`): of two characters the greater one has a greater first
byte, or as many bytes, of which the first that differs is greater
(`Text.encode_append_lt`). So it does not matter whether names are sorted as texts or
as bytes.
-/

namespace NodeFlags.Text

open String (utf8EncodeChar)

/-- The UTF-8 bytes of a text. -/
def bytes (s : String) : List UInt8 :=
  s.toUTF8.data.toList

theorem bytes_eq_flatMap (s : String) : bytes s = s.toList.flatMap utf8EncodeChar := by
  have hencode : s.toUTF8 = s.toList.utf8Encode := by
    rw [String.toUTF8_eq_toByteArray, ← String.toByteArray_ofList, String.ofList_toList]
  rw [bytes, hencode, List.utf8Encode, List.toList_data_toByteArray]

/-- Bytes are compared from the left. -/
theorem ofNat_cons_lt {a b : Nat} {l m : List UInt8} (hb : b < 256) (hle : a ≤ b)
    (h : a = b → l < m) : UInt8.ofNat a :: l < UInt8.ofNat b :: m := by
  rw [List.cons_lt_cons_iff]
  by_cases heq : a = b
  · exact .inr ⟨congrArg UInt8.ofNat heq, h heq⟩
  · left
    rw [UInt8.lt_iff_toNat_lt, UInt8.toNat_ofNat', UInt8.toNat_ofNat']
    omega

/-- **A greater character is encoded by greater bytes**, whatever follows. -/
theorem encode_append_lt {c d : Char} (h : c < d) (l m : List UInt8) :
    utf8EncodeChar c ++ l < utf8EncodeChar d ++ m := by
  have hlt : c.val.toNat < d.val.toNat := h
  have hmax : d.val.toNat < 0x110000 := by
    rcases d.valid with hd | ⟨-, hd⟩ <;> omega
  unfold utf8EncodeChar
  generalize c.val.toNat = v at hlt
  generalize d.val.toNat = w at hlt hmax
  dsimp only
  -- the greater character has at least as many bytes; if it has more, its first byte is greater
  split_ifs
  all_goals try omega
  all_goals refine ofNat_cons_lt (by omega) (by omega) fun _ => ?_
  all_goals try omega
  -- both have two, three or four bytes, and the first digit that differs decides
  · exact ofNat_cons_lt (by omega) (by omega) fun _ => by omega
  · exact ofNat_cons_lt (by omega) (by omega) fun _ =>
      ofNat_cons_lt (by omega) (by omega) fun _ => by omega
  · exact ofNat_cons_lt (by omega) (by omega) fun _ =>
      ofNat_cons_lt (by omega) (by omega) fun _ =>
        ofNat_cons_lt (by omega) (by omega) fun _ => by omega

theorem flatMap_encode_lt {cs ds : List Char} (h : cs < ds) :
    cs.flatMap utf8EncodeChar < ds.flatMap utf8EncodeChar := by
  induction h with
  | @nil d ds =>
    rw [List.flatMap_nil, List.flatMap_cons]
    obtain ⟨b, bs, hd⟩ := List.exists_cons_of_ne_nil (String.utf8EncodeChar_ne_nil (c := d))
    rw [hd]
    exact List.nil_lt_cons _ _
  | cons _ ih => exact List.append_left_lt ih
  | rel hcd => exact encode_append_lt hcd _ _

theorem bytes_lt_of_lt {s t : String} (h : s < t) : bytes s < bytes t := by
  rw [bytes_eq_flatMap, bytes_eq_flatMap]
  exact flatMap_encode_lt h

/-- **The order of texts is the order of their bytes.** -/
theorem bytes_lt_bytes_iff {s t : String} : bytes s < bytes t ↔ s < t := by
  refine ⟨fun h => ?_, bytes_lt_of_lt⟩
  rcases lt_trichotomy s t with hlt | rfl | hgt
  · exact hlt
  · exact absurd h (List.lt_irrefl _)
  · exact absurd h (List.lt_asymm (bytes_lt_of_lt hgt))

theorem bytes_le_bytes_iff {s t : String} : bytes s ≤ bytes t ↔ s ≤ t := by
  rw [← List.not_lt, ← String.not_lt, bytes_lt_bytes_iff]

end NodeFlags.Text
