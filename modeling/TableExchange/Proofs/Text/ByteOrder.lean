import Mathlib.Tactic.Common
import TableExchange.Proofs.Sql.Meaning
import TableExchange.Text.Charset

/-!
# The order of texts by their bytes

UTF-8 keeps the order of texts: comparing the bytes of two texts from the left gives the same answer
as comparing their characters.

* `utf8Bytes`: the bytes of a text in UTF-8.
* `utf8Bytes_lt_iff`, `utf8Bytes_le_iff`: the order of the bytes is the order of the characters.
* `Collation.bytes`: the collation of a database that compares bytes.
* `lesserText`, `greaterText`: two texts in the order of their bytes.
-/

namespace TableExchange

/-- The bytes of a text in UTF-8. -/
def utf8Bytes (text : String) : Bytes := text.toUTF8.data.toList

theorem utf8Bytes_eq_flatMap (text : String) :
    utf8Bytes text = text.toList.flatMap String.utf8EncodeChar := by
  have hencode : text.toUTF8 = text.toList.utf8Encode := by
    rw [String.toUTF8, ← String.utf8Encode_toList]
  rw [utf8Bytes, hencode, List.utf8Encode, List.toList_data_toByteArray]

/-- The bytes of a lesser character are less, whatever follows. -/
theorem utf8EncodeChar_append_lt {c d : Char} (h : c < d) (xs ys : Bytes) :
    String.utf8EncodeChar c ++ xs < String.utf8EncodeChar d ++ ys := by
  have hlt : c.val.toNat < d.val.toNat := h
  have hd : d.val.toNat < 0x110000 := by
    have := d.valid
    simp only [UInt32.isValidChar, Nat.isValidChar] at this
    omega
  generalize hv : c.val.toNat = v at hlt
  generalize hw : d.val.toNat = w at hlt hd
  -- where both take four bytes: the first of the digits in base 64 that differ
  have hdigits : v / 262144 < w / 262144 ∨ v / 262144 = w / 262144 ∧
      (v / 4096 % 64 < w / 4096 % 64 ∨ v / 4096 % 64 = w / 4096 % 64 ∧
        (v / 64 % 64 < w / 64 % 64 ∨ v / 64 % 64 = w / 64 % 64 ∧ v % 64 < w % 64)) := by
    omega
  simp only [String.utf8EncodeChar, hv, hw]
  split_ifs <;>
    simp only [List.cons_append, List.nil_append, List.cons_lt_cons_iff, UInt8.lt_iff_toNat_lt,
      ← UInt8.toNat_inj, UInt8.toNat_ofNat'] <;>
    simp (disch := omega) only [Nat.mod_eq_of_lt] <;>
    omega

theorem flatMap_utf8EncodeChar_lt {xs ys : List Char} (h : xs < ys) :
    xs.flatMap String.utf8EncodeChar < ys.flatMap String.utf8EncodeChar := by
  induction h with
  | @nil d ys =>
    rw [List.flatMap_nil, List.flatMap_cons]
    cases hd : String.utf8EncodeChar d with
    | nil => exact absurd hd String.utf8EncodeChar_ne_nil
    | cons b bs => exact List.nil_lt_cons _ _
  | rel h =>
    rw [List.flatMap_cons, List.flatMap_cons]
    exact utf8EncodeChar_append_lt h _ _
  | cons _ ih =>
    rw [List.flatMap_cons, List.flatMap_cons]
    exact List.append_left_lt ih

/-- The order of bytes is the order of characters. -/
theorem utf8Bytes_lt_iff {a b : String} : utf8Bytes a < utf8Bytes b ↔ a < b := by
  have hforward : ∀ {a b : String}, a < b → utf8Bytes a < utf8Bytes b := by
    intro a b h
    rw [utf8Bytes_eq_flatMap, utf8Bytes_eq_flatMap]
    exact flatMap_utf8EncodeChar_lt h
  refine ⟨fun h => ?_, hforward⟩
  rw [← String.not_le]
  intro hle
  by_cases hba : b < a
  · exact absurd h (List.lt_asymm (hforward hba))
  · rw [String.le_antisymm hle (String.not_lt.1 hba)] at h
    exact List.lt_irrefl _ h

theorem utf8Bytes_le_iff {a b : String} : utf8Bytes a ≤ utf8Bytes b ↔ a ≤ b := by
  rw [← String.not_lt, ← utf8Bytes_lt_iff, List.not_lt]

/-- The collation that compares the bytes of two texts from the left. -/
def Collation.bytes : Collation where
  atMost a b := utf8Bytes a ≤ utf8Bytes b
  total a b := by
    simp only [decide_eq_true_eq]
    exact List.le_total _ _
  trans h h' := by
    simp only [decide_eq_true_eq] at h h' ⊢
    exact List.le_trans h h'

def lesserText (a b : String) : String := if utf8Bytes a ≤ utf8Bytes b then a else b

def greaterText (a b : String) : String := if utf8Bytes a ≤ utf8Bytes b then b else a

theorem le_greaterText (a b : String) : a ≤ greaterText a b ∧ b ≤ greaterText a b := by
  rw [greaterText]
  split
  · next h => exact ⟨utf8Bytes_le_iff.1 h, String.le_refl b⟩
  · next h => exact ⟨String.le_refl a, utf8Bytes_le_iff.1 ((List.le_total _ _).resolve_left h)⟩

theorem greaterText_eq_or (a b : String) : greaterText a b = a ∨ greaterText a b = b := by
  rw [greaterText]
  split
  · exact .inr rfl
  · exact .inl rfl

theorem Collation.bytes_le_text {a b : String} :
    Collation.bytes.Le (.text a) (.text b) ↔ a ≤ b := by
  rw [← utf8Bytes_le_iff]
  simp [Collation.Le, Collation.compare, Collation.bytes]

end TableExchange
