import Mathlib.Data.List.Lex
import Mathlib.Data.String.Basic

namespace WidgetLocator

/-- The bytes of a text. -/
def utf8 (text : String) : List UInt8 :=
  text.toByteArray.data.toList

theorem utf8_eq (text : String) : utf8 text = text.toList.flatMap String.utf8EncodeChar := by
  have encoded : text.toByteArray = (text.toList.flatMap String.utf8EncodeChar).toByteArray :=
    String.utf8Encode_toList.symm
  rw [utf8, encoded, List.data_toByteArray]

theorem lt_of_sixBits {v w : Nat} (h : v < w) :
    v / 64 < w / 64 ∨ v / 64 = w / 64 ∧ v % 64 < w % 64 := by
  omega

/-- A character with a larger code point has larger bytes, whatever follows them. -/
theorem utf8EncodeChar_append_lt {c d : Char} (h : c < d) (xs ys : List UInt8) :
    String.utf8EncodeChar c ++ xs < String.utf8EncodeChar d ++ ys := by
  have lt : c.val.toNat < d.val.toNat := h
  have bound : d.val.toNat < 1114112 := by
    have valid := d.valid
    simp only [UInt32.isValidChar, Nat.isValidChar] at valid
    omega
  unfold String.utf8EncodeChar
  dsimp only
  generalize c.val.toNat = v at *
  generalize d.val.toNat = w at *
  have last := lt_of_sixBits lt
  have third : v / 64 < w / 64 → _ := lt_of_sixBits
  have second : v / 4096 < w / 4096 → _ := lt_of_sixBits
  simp only [Nat.div_div_eq_div_mul, Nat.reduceMul] at third second
  -- each of the four lengths of an encoding has first bytes of its own
  split_ifs <;>
    simp (disch := omega) only [List.cons_append, List.nil_append, List.cons_lt_cons_iff,
      UInt8.lt_iff_toNat_lt, UInt8.toNat_ofNat', ← UInt8.toNat_inj, Nat.mod_eq_of_lt] <;>
    omega

theorem flatMap_utf8EncodeChar_lt {cs ds : List Char} (h : cs < ds) :
    cs.flatMap String.utf8EncodeChar < ds.flatMap String.utf8EncodeChar := by
  induction h with
  | @nil d ds =>
    rw [List.flatMap_nil, List.flatMap_cons]
    cases hd : String.utf8EncodeChar d with
    | nil => exact absurd hd String.utf8EncodeChar_ne_nil
    | cons byte bytes => exact List.nil_lt_cons _ _
  | rel lt =>
    rw [List.flatMap_cons, List.flatMap_cons]
    exact utf8EncodeChar_append_lt lt _ _
  | @cons c cs ds _ ih =>
    rw [List.flatMap_cons, List.flatMap_cons]
    exact List.Lex.append_left _ ih _

theorem utf8_lt_iff {a b : String} : utf8 a < utf8 b ↔ a < b := by
  have mono {a b : String} (h : a < b) : utf8 a < utf8 b := by
    rw [utf8_eq, utf8_eq]
    exact flatMap_utf8EncodeChar_lt (String.lt_iff.mp h)
  constructor
  · intro h
    rcases Std.lt_trichotomy a b with lt | rfl | gt
    · exact lt
    · exact absurd h (List.lt_irrefl _)
    · exact absurd (List.lt_trans h (mono gt)) (List.lt_irrefl _)
  · exact mono

theorem utf8_le_iff {a b : String} : utf8 a ≤ utf8 b ↔ a ≤ b :=
  not_congr utf8_lt_iff

end WidgetLocator
