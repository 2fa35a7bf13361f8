import Mathlib.Algebra.Group.Nat.Defs
import TableExchange.Proofs.Text.Blank
import TableExchange.Text.Digits

/-!
# Digit strings and numbers

* `Digits.length_ofNat_le_iff`, `Digits.lt_pow_length`, `Digits.pow_length_le`: how many digits a
  number has.
* `Digits.toNat_lt`, `Digits.toNat_append`: what a digit string denotes at most, and with more
  digits behind it.
* `Digits.toNat_replicate_zero_append`: zeros in front count for nothing.
* `Digits.toNat_append_zeros`, `Digits.ofNat_mul_pow`: zeros behind are factors of ten.
* `Digits.toNat_take`: the first digits of a string are a quotient by a power of ten.
* `Digits.exists_zeros`: the zeros at the end of a string, taken off.
-/

namespace TableExchange

namespace Digits

theorem isNumeral_iff {cs : List Char} :
    isNumeral cs = true ↔ cs ≠ [] ∧ ∀ c ∈ cs, c.isDigit = true := by
  simp [isNumeral, areDigits]

theorem isNumeral_append {cs ds : List Char} (h : cs ≠ []) :
    isNumeral (cs ++ ds) = true ↔ isNumeral cs = true ∧ areDigits ds = true := by
  simp [isNumeral, areDigits, h]

theorem isNumeral_ofNat (n : Nat) : isNumeral (ofNat n) = true := by
  have hne : ofNat n ≠ [] := Nat.toDigits_ne_nil
  simp [isNumeral, areDigits_ofNat, hne]

theorem length_ofNat_le_iff {n k : Nat} (hk : 0 < k) : (ofNat n).length ≤ k ↔ n < 10 ^ k :=
  Nat.length_toDigits_le_iff (by decide) hk

theorem length_ofNat_pos (n : Nat) : 0 < (ofNat n).length := Nat.length_toDigits_pos

theorem lt_pow_length (n : Nat) : n < 10 ^ (ofNat n).length :=
  (length_ofNat_le_iff (length_ofNat_pos n)).1 (Nat.le_refl _)

theorem pow_length_le {n : Nat} (hn : 0 < n) : 10 ^ ((ofNat n).length - 1) ≤ n := by
  by_cases hone : (ofNat n).length = 1
  · rw [hone]
    exact hn
  · have hpos := length_ofNat_pos n
    refine Nat.le_of_not_lt fun hlt => ?_
    have hfewer : (ofNat n).length ≤ (ofNat n).length - 1 :=
      (length_ofNat_le_iff (by omega)).2 hlt
    omega

theorem toNat_lt {cs : List Char} (h : areDigits cs = true) : toNat cs < 10 ^ cs.length := by
  induction cs with
  | nil => decide
  | cons c cs ih =>
    obtain ⟨hc, hrest⟩ : c.isDigit = true ∧ cs.all Char.isDigit = true := by
      simpa [areDigits] using h
    have hdigit : c.toNat - '0'.toNat ≤ 9 := by
      have hle : c.toNat ≤ '9'.toNat := (Char.isDigit_iff_toNat.1 hc).2
      have h9 : '9'.toNat = 57 := rfl
      have h0 : '0'.toNat = 48 := rfl
      omega
    have hlow : Nat.ofDigitChars 10 cs 0 < 10 ^ cs.length := ih hrest
    have hmul : 10 ^ cs.length * (c.toNat - '0'.toNat) ≤ 10 ^ cs.length * 9 :=
      Nat.mul_le_mul_left _ hdigit
    rw [toNat, Nat.ofDigitChars_cons, Nat.ofDigitChars_eq_ofDigitChars_zero, List.length_cons,
      Nat.pow_succ, Nat.mul_zero, Nat.zero_add]
    omega

theorem toNat_append (ws fs : Digits) :
    toNat (ws ++ fs) = 10 ^ fs.length * toNat ws + toNat fs := by
  rw [toNat, Nat.ofDigitChars_append, Nat.ofDigitChars_eq_ofDigitChars_zero]
  rfl

/-! ## Zeros -/

theorem areDigits_replicate_zero (k : Nat) : areDigits (List.replicate k '0') = true :=
  List.all_eq_true.2 fun c hc => by rw [List.eq_of_mem_replicate hc]; rfl

theorem toNat_replicate_zero_append (k : Nat) (cs : List Char) :
    toNat (List.replicate k '0' ++ cs) = toNat cs := by
  induction k with
  | zero => rfl
  | succ k ih => rwa [List.replicate_succ, List.cons_append, toNat, Nat.ofDigitChars_cons]

theorem toNat_replicate_zero (k : Nat) : toNat (List.replicate k '0') = 0 := by
  rw [← List.append_nil (List.replicate k '0'), toNat_replicate_zero_append]
  rfl

theorem toNat_append_zeros (cs : Digits) (k : Nat) :
    toNat (cs ++ List.replicate k '0') = toNat cs * 10 ^ k := by
  rw [toNat_append, toNat_replicate_zero, List.length_replicate, Nat.add_zero, Nat.mul_comm]

theorem ofNat_mul_pow {n : Nat} (hn : 0 < n) (k : Nat) :
    ofNat (n * 10 ^ k) = ofNat n ++ List.replicate k '0' := by
  induction k with
  | zero => simp
  | succ k ih =>
    have hpos : 0 < n * 10 ^ k := Nat.mul_pos hn (Nat.pow_pos (by decide))
    have hstep : ofNat (10 * (n * 10 ^ k)) = ofNat (n * 10 ^ k) ++ ['0'] :=
      (Nat.toDigits_append_toDigits (b := 10) (d := 0) (by decide) hpos (by decide)).symm
    rw [Nat.pow_succ, ← Nat.mul_assoc, Nat.mul_comm _ 10, hstep, ih, List.append_assoc,
      List.replicate_succ']

/-- Zeros at the end of a string are taken off, and no others. -/
theorem exists_zeros (cs : List Char) :
    ∃ k, cs = (cs.reverse.dropWhile (· == '0')).reverse ++ List.replicate k '0' :=
  exists_repeated '0' cs

theorem getLast?_ne_zero (cs : List Char) :
    (cs.reverse.dropWhile (· == '0')).reverse.getLast? ≠ some '0' := by
  intro h
  have hlast := getLast?_rdropWhile h
  cases hlast

/-! ## Parts of a string -/

theorem areDigits_append {cs ds : List Char} :
    areDigits (cs ++ ds) = true ↔ areDigits cs = true ∧ areDigits ds = true := by
  rw [areDigits, List.all_append, Bool.and_eq_true]
  exact Iff.rfl

theorem areDigits_take {cs : List Char} (h : areDigits cs = true) (k : Nat) :
    areDigits (cs.take k) = true :=
  (areDigits_append.1 ((List.take_append_drop k cs).symm ▸ h)).1

theorem areDigits_drop {cs : List Char} (h : areDigits cs = true) (k : Nat) :
    areDigits (cs.drop k) = true :=
  (areDigits_append.1 ((List.take_append_drop k cs).symm ▸ h)).2

theorem isNumeral_take {cs : List Char} {k : Nat} (h : areDigits cs = true) (hk : 0 < k)
    (hlength : k ≤ cs.length) : isNumeral (cs.take k) = true := by
  refine isNumeral_iff.2 ⟨?_, List.all_eq_true.1 (areDigits_take h k)⟩
  rw [← List.length_pos_iff, List.length_take]
  omega

/-- The first digits of a string are what is left of the number without the others. -/
theorem toNat_take {cs : List Char} (h : areDigits cs = true) (k : Nat) :
    toNat (cs.take k) = toNat cs / 10 ^ (cs.length - k) := by
  have hlt := toNat_lt (areDigits_drop h k)
  have hsplit : toNat cs = 10 ^ (cs.drop k).length * toNat (cs.take k) + toNat (cs.drop k) := by
    rw [← toNat_append, List.take_append_drop]
  rw [hsplit, ← List.length_drop, Nat.mul_add_div (Nat.pow_pos (by decide)), Nat.div_eq_of_lt hlt,
    Nat.add_zero]

theorem areDigits_padded (width n : Nat) : areDigits (padded width n) = true := by
  rw [padded, fill, areDigits, List.all_append, Bool.and_eq_true]
  exact ⟨areDigits_replicate_zero _, areDigits_ofNat n⟩

end Digits

end TableExchange
