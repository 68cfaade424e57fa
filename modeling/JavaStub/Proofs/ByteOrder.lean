import Mathlib.Data.List.Basic

/-!
# The order of strings is the order of their bytes

Strings are compared character by character. Their encodings in UTF-8 are compared in the same way:
the encodings of two characters differ first at some byte, and there the lesser character has the
lesser byte, whatever follows.

Main facts:

1. `encoding_lt`: encodings of different characters, followed by anything, are in their order.
2. `utf8Bytes_lt_iff`: the order of strings is the order of their bytes.
-/

namespace JavaStub

open String (utf8EncodeChar)

variable {c d : Char} {cs ds : List Char}

/-- The bytes of a string in UTF-8. -/
def utf8Bytes (s : String) : List UInt8 := s.toUTF8.data.toList

theorem utf8Bytes_ofList (cs : List Char) :
    utf8Bytes (String.ofList cs) = cs.flatMap utf8EncodeChar := by
  show (String.ofList cs).toByteArray.data.toList = _
  rw [String.toByteArray_ofList, List.utf8Encode, List.data_toByteArray]

/-- Byte strings that differ first at some byte are in the order of these bytes. -/
theorem encoding_lt (h : c < d) (u v : List UInt8) :
    utf8EncodeChar c ++ u < utf8EncodeChar d ++ v := by
  have less : c.val.toNat < d.val.toNat := h
  have bound : d.val.toNat < 1114112 := by
    rcases d.valid with low | high
    · exact Nat.lt_trans low (by decide)
    · exact high.2
  unfold utf8EncodeChar
  generalize c.val.toNat = m at less
  generalize d.val.toNat = n at less bound
  dsimp only
  -- one case for each two lengths of the encodings
  split_ifs <;>
    simp (disch := omega) only [List.cons_append, List.nil_append, List.cons_lt_cons_iff,
      UInt8.lt_iff_toNat_lt, ← UInt8.toNat_inj, UInt8.toNat_ofNat', Nat.mod_eq_of_lt] <;>
    omega

theorem flatMap_encoding_lt (h : cs < ds) :
    cs.flatMap utf8EncodeChar < ds.flatMap utf8EncodeChar := by
  induction cs generalizing ds with
  | nil =>
    cases ds with
    | nil => exact absurd h (List.not_lt_nil _)
    | cons d ds =>
      rw [List.flatMap_nil, List.flatMap_cons]
      -- every character has some byte, so the empty text is the least one
      have some : utf8EncodeChar d ≠ [] := by
        intro none
        have size := congrArg List.length none
        rw [String.length_utf8EncodeChar] at size
        exact absurd size (Nat.ne_of_gt d.utf8Size_pos)
      obtain ⟨b, bs, same⟩ := List.exists_cons_of_ne_nil some
      rw [same]
      exact List.nil_lt_cons _ _
  | cons c cs ih =>
    cases ds with
    | nil => exact absurd h (List.not_lt_nil _)
    | cons d ds =>
      rw [List.flatMap_cons, List.flatMap_cons]
      rcases List.cons_lt_cons_iff.mp h with less | ⟨rfl, less⟩
      · exact encoding_lt less _ _
      · exact List.append_left_lt (ih less)

/-- The order of strings is the order of their bytes. -/
theorem utf8Bytes_lt_iff {s t : String} : utf8Bytes s < utf8Bytes t ↔ s < t := by
  have mono : ∀ {s t : String}, s < t → utf8Bytes s < utf8Bytes t := by
    intro s t less
    rw [← String.ofList_toList (s := s), ← String.ofList_toList (s := t), utf8Bytes_ofList,
      utf8Bytes_ofList]
    exact flatMap_encoding_lt (String.lt_iff.mp less)
  refine ⟨fun less => ?_, mono⟩
  rcases Std.lt_trichotomy s t with before | same | behind
  · exact before
  · rw [same] at less
    exact absurd less (List.lt_irrefl _)
  · exact absurd less (List.lt_asymm (mono behind))

end JavaStub
