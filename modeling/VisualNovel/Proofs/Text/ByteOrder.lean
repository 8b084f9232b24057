import Mathlib.Tactic.SplitIfs

/-!
The order of texts. Texts compare by their characters, and the bytes of a text compare the same way:
UTF-8 keeps the order.
-/

namespace VisualNovel.Text

def bytes (text : String) : List UInt8 := text.toUTF8.data.toList

theorem bytes_eq (text : String) : bytes text = text.toList.flatMap String.utf8EncodeChar := by
  have encoded : text.toUTF8 = (text.toList.flatMap String.utf8EncodeChar).toByteArray := by
    conv => lhs; rw [← String.ofList_toList (s := text)]
    rfl
  rw [bytes, encoded]
  simp

/-- The bytes of the lesser character come first, whatever follows. -/
theorem utf8EncodeChar_append_lt {c d : Char} (lt : c < d) (cs ds : List UInt8) :
    String.utf8EncodeChar c ++ cs < String.utf8EncodeChar d ++ ds := by
  have lt : c.val.toNat < d.val.toNat := lt
  have inside : d.val.toNat < 0x110000 := by
    have valid := d.valid
    simp only [UInt32.isValidChar, Nat.isValidChar] at valid
    omega
  unfold String.utf8EncodeChar
  dsimp only
  generalize c.val.toNat = m at *
  generalize d.val.toNat = n at *
  -- the digits of a number to the base 64, one after another
  have second (k : Nat) : k / 4096 = k / 64 / 64 := (Nat.div_div_eq_div_mul k 64 64).symm
  have third (k : Nat) : k / 262144 = k / 64 / 64 / 64 := by
    rw [Nat.div_div_eq_div_mul, Nat.div_div_eq_div_mul]
  split_ifs <;>
    simp only [second, third, List.cons_append, List.nil_append, List.cons_lt_cons_iff,
      UInt8.lt_iff_toNat_lt, ← UInt8.toNat_inj, UInt8.toNat_ofNat'] <;>
    omega

theorem flatMap_utf8EncodeChar_lt {cs ds : List Char} (lt : cs.Lex (· < ·) ds) :
    cs.flatMap String.utf8EncodeChar < ds.flatMap String.utf8EncodeChar := by
  induction lt with
  | @nil c cs =>
    -- each character has at least one byte
    have encoded : String.utf8EncodeChar c ≠ [] := by
      rw [← List.length_pos_iff, String.length_utf8EncodeChar]
      exact c.utf8Size_pos
    obtain ⟨b, bs, first⟩ := List.exists_cons_of_ne_nil encoded
    rw [List.flatMap_nil, List.flatMap_cons, first]
    exact List.nil_lt_cons _ _
  | rel before =>
    rw [List.flatMap_cons, List.flatMap_cons]
    exact utf8EncodeChar_append_lt before _ _
  | cons _ ih =>
    rw [List.flatMap_cons, List.flatMap_cons]
    exact List.append_left_lt ih

/-- Of two texts the one that comes first has the bytes that come first. -/
theorem bytes_lt_of_lt {s t : String} (lt : s < t) : bytes s < bytes t := by
  rw [bytes_eq, bytes_eq]
  exact flatMap_utf8EncodeChar_lt (List.lex_lt.2 (String.lt_iff.1 lt))

end VisualNovel.Text
