import Mathlib.Tactic.Common

/-!
# Texts and their bytes

Names on a disk are ordered by their bytes, and texts by their characters.  The two orders are the
same: the bytes of a character that comes first are smaller (`utf8EncodeChar_lt`), whatever follows,
because a longer encoding starts with a larger byte, and encodings of the same length are the digits
of the code, the leading one first.
-/

namespace Componentry.Text

/-- The bytes of a text. -/
def bytesOf (text : String) : List UInt8 := text.toUTF8.data.toList

lemma bytesOf_eq (text : String) : bytesOf text = text.toList.flatMap String.utf8EncodeChar := by
  conv_lhs => rw [← String.ofList_toList (s := text)]
  rw [bytesOf, String.toUTF8_eq_toByteArray, String.toByteArray_ofList, List.utf8Encode,
    List.data_toByteArray]

/-- A smaller number has a smaller leading part, or a smaller last digit behind the same one. -/
lemma digit_lt {v w : Nat} (h : v < w) : v / 64 < w / 64 ∨ v / 64 = w / 64 ∧ v % 64 < w % 64 := by
  omega

/-- A smaller number has a smaller first digit, or the same one and smaller digits behind it. -/
lemma digits_lt {v w : Nat} (h : v < w) :
    v / 262144 < w / 262144 ∨ v / 262144 = w / 262144
      ∧ (v / 4096 % 64 < w / 4096 % 64 ∨ v / 4096 % 64 = w / 4096 % 64
        ∧ (v / 64 % 64 < w / 64 % 64 ∨ v / 64 % 64 = w / 64 % 64 ∧ v % 64 < w % 64)) := by
  have hdiv : ∀ n : Nat, n / 4096 = n / 64 / 64 ∧ n / 262144 = n / 64 / 64 / 64 := by omega
  rw [(hdiv v).1, (hdiv v).2, (hdiv w).1, (hdiv w).2]
  rcases digit_lt h with h | ⟨h, hlast⟩
  · rcases digit_lt h with h | ⟨h, hlast⟩
    · rcases digit_lt h with h | ⟨h, hlast⟩
      · exact .inl h
      · exact .inr ⟨h, .inl hlast⟩
    · exact .inr ⟨congrArg (· / 64) h, .inr ⟨congrArg (· % 64) h, .inl hlast⟩⟩
  · refine .inr ⟨congrArg (· / 64 / 64) h, .inr ⟨congrArg (· / 64 % 64) h, .inr ⟨?_, hlast⟩⟩⟩
    exact congrArg (· % 64) h

lemma ofNat_cons_lt_iff {a b : Nat} (ha : a < 256) (hb : b < 256) {front other : List UInt8} :
    UInt8.ofNat a :: front < UInt8.ofNat b :: other ↔ a < b ∨ a = b ∧ front < other := by
  rw [List.cons_lt_cons_iff, UInt8.lt_iff_toNat_lt, ← UInt8.toNat_inj, UInt8.toNat_ofNat',
    UInt8.toNat_ofNat', Nat.mod_eq_of_lt ha, Nat.mod_eq_of_lt hb]

/-- The bytes of a smaller character are smaller, whatever follows. -/
lemma utf8EncodeChar_lt {c d : Char} (h : c < d) (front other : List UInt8) :
    String.utf8EncodeChar c ++ front < String.utf8EncodeChar d ++ other := by
  have hlt : c.val.toNat < d.val.toNat := h
  have hd : d.val.toNat < 0x110000 := by
    have hvalid := d.valid
    unfold UInt32.isValidChar Nat.isValidChar at hvalid
    omega
  unfold String.utf8EncodeChar
  dsimp only
  generalize c.val.toNat = v at hlt
  generalize d.val.toNat = w at hlt hd
  by_cases hlong : v ≤ 0xffff
  · split_ifs <;> simp (disch := omega) only [List.cons_append, List.nil_append, ofNat_cons_lt_iff]
      <;> omega
  · -- four bytes each: the first one holds what is left of the code in front of three digits
    have hfirst : v / 262144 % 8 = v / 262144 ∧ w / 262144 % 8 = w / 262144 := by omega
    rw [if_neg (by omega), if_neg (by omega), if_neg hlong, if_neg (by omega), if_neg (by omega),
      if_neg (by omega), hfirst.1, hfirst.2]
    simp (disch := omega) only [List.cons_append, List.nil_append, ofNat_cons_lt_iff,
      Nat.add_lt_add_iff_right, Nat.add_right_cancel_iff]
    have hdigits := digits_lt hlt
    tauto

lemma flatMap_utf8EncodeChar_lt {front other : List Char} (h : front < other) :
    front.flatMap String.utf8EncodeChar < other.flatMap String.utf8EncodeChar := by
  induction front generalizing other with
  | nil =>
      cases other with
      | nil => exact absurd h (by simp)
      | cons d rest =>
          obtain ⟨byte, bytes, hd⟩ := List.exists_cons_of_ne_nil (@String.utf8EncodeChar_ne_nil d)
          simp [hd]
  | cons c front ih =>
      cases other with
      | nil => exact absurd h (by simp)
      | cons d rest =>
          rw [List.flatMap_cons, List.flatMap_cons]
          rcases List.cons_lt_cons_iff.mp h with hlt | ⟨rfl, hrest⟩
          · exact utf8EncodeChar_lt hlt _ _
          · exact List.append_left_lt (ih hrest)

/-- **Texts are ordered as their bytes are.** -/
theorem bytesOf_lt {a b : String} (h : a < b) : bytesOf a < bytesOf b := by
  rw [bytesOf_eq, bytesOf_eq]
  exact flatMap_utf8EncodeChar_lt h

end Componentry.Text
