import Mathlib.Data.String.Basic
import Mathlib.Tactic.Ring
import TableExchange.Proofs.Text.Blank
import TableExchange.Split.AsciiCode
import TableExchange.Text.Ascii

/-!
# The order of texts as numbers

Texts of at most `width` ASCII characters and numbers below `radix ^ width` are in the same order, up
to NULs at the end of a text.

* `encode_le`: the number of a text that is at most another one is at most that one's.
* `decode_le`: the text of a number that is at most another one is at most that one's.
* `decode_encode_le`: a text that is encoded and decoded loses only NULs at its end.
-/

namespace TableExchange

namespace AsciiCode

/-! ## Lists compared from the left -/

-- `≤` is that of the linear order on lists, which is not the one that core's lemmas are about
section Lists

variable {α : Type} [LinearOrder α]

theorem nil_le (xs : List α) : [] ≤ xs := by
  cases xs with
  | nil => exact le_rfl
  | cons x xs => exact le_of_lt (List.nil_lt_cons x xs)

theorem not_cons_le_nil {x : α} {xs : List α} : ¬x :: xs ≤ [] :=
  not_le.2 (List.nil_lt_cons x xs)

theorem cons_le_cons_iff {x y : α} {xs ys : List α} :
    x :: xs ≤ y :: ys ↔ x < y ∨ x = y ∧ xs ≤ ys := by
  rw [le_iff_lt_or_eq, le_iff_lt_or_eq, List.cons_lt_cons_iff, List.cons.injEq]
  tauto

theorem le_of_isInitial {xs ys : List α} (h : xs <+: ys) : xs ≤ ys := by
  obtain ⟨zs, rfl⟩ := h
  induction xs with
  | nil => exact nil_le _
  | cons x xs ih => exact List.cons_le_cons x ih

end Lists

/-! ## Codes of characters -/

theorem isAscii_iff {text : String} :
    isAscii text = true ↔ ∀ c ∈ text.toList, c.toNat < radix := by
  rw [isAscii, List.all_eq_true]
  exact forall₂_congr fun _ _ => decide_eq_true_iff

abbrev codes (text : List Char) : List Nat := text.map Char.toNat

theorem codes_strictMono : StrictMono codes := by
  intro xs ys h
  exact List.map_lt (fun _ _ h => h) h

theorem codes_map_ofNat {ds : List Nat} (hds : ∀ d ∈ ds, d < radix) :
    codes (ds.map Char.ofNat) = ds := by
  have hcode : ∀ d ∈ ds, (Char.toNat ∘ Char.ofNat) d = d := by
    intro d hd
    have hvalid : d.isValidChar := .inl (Nat.lt_trans (hds d hd) (by decide))
    rw [Function.comp, Char.ofNat, dif_pos hvalid]
    rfl
  rw [codes, List.map_map, List.map_congr_left hcode, List.map_id']

/-! ## The number of a text -/

theorem foldl_digits (acc : Nat) (text : List Char) :
    text.foldl (fun n c => n * radix + c.toNat) acc =
      acc * radix ^ text.length + text.foldl (fun n c => n * radix + c.toNat) 0 := by
  induction text generalizing acc with
  | nil => simp
  | cons c text ih =>
    rw [List.foldl_cons, List.foldl_cons, ih (acc * radix + c.toNat), ih (0 * radix + c.toNat),
      List.length_cons, Nat.pow_succ]
    ring

theorem encode_nil (width : Nat) : encode width [] = 0 := by
  have hzero : ∀ n : Nat, (List.replicate n (Char.ofNat 0)).foldl
      (fun n c => n * radix + c.toNat) 0 = 0 := by
    intro n
    induction n with
    | zero => rfl
    | succ n ih => simpa [List.replicate_succ] using ih
  simpa [encode] using hzero width

/-- The first character counts most. -/
theorem encode_cons {width : Nat} {c : Char} {text : List Char} (h : text.length ≤ width) :
    encode (width + 1) (c :: text) = c.toNat * radix ^ width + encode width text := by
  rw [encode, encode, List.length_cons, Nat.add_sub_add_right, List.cons_append, List.foldl_cons,
    foldl_digits, List.length_append, List.length_replicate, Nat.add_sub_cancel' h]
  simp

theorem encode_lt {width : Nat} {text : List Char} (hlength : text.length ≤ width)
    (hascii : ∀ c ∈ text, c.toNat < radix) : encode width text < radix ^ width := by
  induction text generalizing width with
  | nil =>
    rw [encode_nil]
    exact Nat.pow_pos (by decide)
  | cons c text ih =>
    obtain ⟨m, rfl⟩ : ∃ m, width = m + 1 := ⟨width - 1, by simp at hlength; omega⟩
    have hrest : text.length ≤ m := by simpa using hlength
    have hlow := ih hrest fun d hd => hascii d (List.mem_cons_of_mem _ hd)
    have hc : c.toNat + 1 ≤ radix := hascii c List.mem_cons_self
    rw [encode_cons hrest, Nat.pow_succ]
    calc c.toNat * radix ^ m + encode m text
        < c.toNat * radix ^ m + radix ^ m := by omega
      _ = (c.toNat + 1) * radix ^ m := by ring
      _ ≤ radix * radix ^ m := Nat.mul_le_mul_right _ hc
      _ = radix ^ m * radix := Nat.mul_comm _ _

theorem encode_le {width : Nat} {xs ys : List Char} (hxs : xs.length ≤ width)
    (hys : ys.length ≤ width) (hascii : ∀ c ∈ xs, c.toNat < radix) (h : xs ≤ ys) :
    encode width xs ≤ encode width ys := by
  induction xs generalizing ys width with
  | nil =>
    rw [encode_nil]
    exact Nat.zero_le _
  | cons c xs ih =>
    cases ys with
    | nil => exact absurd h not_cons_le_nil
    | cons d ys =>
      obtain ⟨m, rfl⟩ : ∃ m, width = m + 1 := ⟨width - 1, by simp at hxs; omega⟩
      have hxs' : xs.length ≤ m := by simpa using hxs
      have hys' : ys.length ≤ m := by simpa using hys
      have hascii' : ∀ c ∈ xs, c.toNat < radix := fun d hd => hascii d (List.mem_cons_of_mem _ hd)
      rw [encode_cons hxs', encode_cons hys']
      rcases cons_le_cons_iff.1 h with hlt | ⟨rfl, hrest⟩
      · have hcd : c.toNat + 1 ≤ d.toNat := hlt
        have hlow := encode_lt hxs' hascii'
        have hmul := Nat.mul_le_mul_right (radix ^ m) hcd
        rw [Nat.add_mul] at hmul
        omega
      · have hle := ih hxs' hys' hascii' hrest
        omega

/-! ## The digits of a number -/

theorem mem_digits_lt {width n d : Nat} (h : d ∈ digits width n) : d < radix := by
  induction width generalizing n with
  | zero => cases h
  | succ width ih =>
    rw [digits, List.mem_append, List.mem_singleton] at h
    rcases h with h | rfl
    · exact ih h
    · exact Nat.mod_lt _ (by decide)

theorem digits_succ {width n : Nat} (h : n < radix ^ (width + 1)) :
    digits (width + 1) n = n / radix ^ width :: digits width (n % radix ^ width) := by
  induction width generalizing n with
  | zero =>
    have hn : n < radix := by simpa using h
    simp [digits, Nat.mod_eq_of_lt hn]
  | succ width ih =>
    have hn : n / radix < radix ^ (width + 1) := by
      rw [Nat.div_lt_iff_lt_mul (by decide), ← Nat.pow_succ]
      exact h
    have hfirst : n / radix / radix ^ width = n / radix ^ (width + 1) := by
      rw [Nat.div_div_eq_div_mul, Nat.pow_succ, Nat.mul_comm]
    have hmiddle : n / radix % radix ^ width = n % radix ^ (width + 1) / radix := by
      rw [Nat.pow_succ, Nat.mul_comm, Nat.mod_mul_right_div_self]
    have hlast : n % radix = n % radix ^ (width + 1) % radix := by
      rw [Nat.mod_mod_of_dvd]
      exact Dvd.intro_left _ (Nat.pow_succ ..).symm
    rw [digits, ih hn, hfirst, hmiddle, hlast, List.cons_append]
    rfl

theorem digits_le {width m n : Nat} (h : m ≤ n) (hn : n < radix ^ width) :
    digits width m ≤ digits width n := by
  induction width generalizing m n with
  | zero => exact le_rfl
  | succ width ih =>
    rw [digits_succ (by omega), digits_succ hn, cons_le_cons_iff]
    have hpos : 0 < radix ^ width := Nat.pow_pos (by decide)
    rcases Nat.lt_or_eq_of_le (Nat.div_le_div_right (c := radix ^ width) h) with hlt | heq
    · exact .inl hlt
    · have hm' := Nat.div_add_mod m (radix ^ width)
      have hn' := Nat.div_add_mod n (radix ^ width)
      rw [heq] at hm'
      exact .inr ⟨heq, ih (by omega) (Nat.mod_lt _ hpos)⟩

/-- The digits of the number of a text are the codes of the text, filled up with zeros. -/
theorem digits_encode {width : Nat} {text : List Char} (hlength : text.length ≤ width)
    (hascii : ∀ c ∈ text, c.toNat < radix) :
    digits width (encode width text) =
      codes text ++ List.replicate (width - text.length) 0 := by
  induction text generalizing width with
  | nil =>
    rw [encode_nil]
    have hzero : ∀ width, digits width 0 = List.replicate width 0 := by
      intro width
      induction width with
      | zero => rfl
      | succ width ih =>
        rw [digits, Nat.zero_div, ih, List.replicate_succ']
        rfl
    simpa using hzero width
  | cons c text ih =>
    obtain ⟨m, rfl⟩ : ∃ m, width = m + 1 := ⟨width - 1, by simp at hlength; omega⟩
    have hrest : text.length ≤ m := by simpa using hlength
    have hascii' : ∀ c ∈ text, c.toNat < radix := fun d hd => hascii d (List.mem_cons_of_mem _ hd)
    have hlow := encode_lt hrest hascii'
    have hpos : 0 < radix ^ m := Nat.pow_pos (by decide)
    rw [digits_succ (encode_lt hlength hascii), encode_cons hrest, Nat.mul_comm,
      Nat.mul_add_div hpos, Nat.div_eq_of_lt hlow, Nat.mul_add_mod, Nat.mod_eq_of_lt hlow,
      ih hrest hascii']
    simp

/-! ## Zeros at the end -/

/-- A digit stays if it is not zero or a digit behind it stays. -/
theorem dropTrailingZeros_cons (d : Nat) (ds : List Nat) :
    dropTrailingZeros (d :: ds) =
      if d = 0 ∧ dropTrailingZeros ds = [] then [] else d :: dropTrailingZeros ds := by
  unfold dropTrailingZeros
  rw [List.reverse_cons, List.dropWhile_append]
  cases hrest : ds.reverse.dropWhile (· = 0) with
  | nil => by_cases hd : d = 0 <;> simp [hd]
  | cons e es => simp

theorem isInitial_dropTrailingZeros (ds : List Nat) : dropTrailingZeros ds <+: ds :=
  List.rdropWhile_prefix _ ds

theorem dropTrailingZeros_append_zeros (ds : List Nat) (n : Nat) :
    dropTrailingZeros (ds ++ List.replicate n 0) = dropTrailingZeros ds :=
  rdropWhile_append fun _ hd => decide_eq_true (List.eq_of_mem_replicate hd)

theorem dropTrailingZeros_le {xs ys : List Nat} (h : xs ≤ ys) :
    dropTrailingZeros xs ≤ dropTrailingZeros ys := by
  induction xs generalizing ys with
  | nil => exact nil_le _
  | cons x xs ih =>
    cases ys with
    | nil => exact absurd h not_cons_le_nil
    | cons y ys =>
      rw [dropTrailingZeros_cons x xs]
      split
      · exact nil_le _
      · rename_i hkept
        -- the first digit of `xs` is kept, so that of `ys` is
        rcases cons_le_cons_iff.1 h with hlt | ⟨rfl, htail⟩
        · have hy : ¬(y = 0 ∧ dropTrailingZeros ys = []) := by omega
          rw [dropTrailingZeros_cons, if_neg hy]
          exact cons_le_cons_iff.2 (.inl hlt)
        · have hrest := ih htail
          have hy : ¬(x = 0 ∧ dropTrailingZeros ys = []) := by
            intro h
            obtain ⟨hx, hnil⟩ := h
            rw [hnil] at hrest
            exact hkept ⟨hx, le_antisymm hrest (nil_le _)⟩
          rw [dropTrailingZeros_cons, if_neg hy]
          exact cons_le_cons_iff.2 (.inr ⟨rfl, hrest⟩)

/-! ## The text of a number -/

theorem codes_decode (width n : Nat) :
    codes (decode width n) = dropTrailingZeros (digits width n) :=
  codes_map_ofNat fun _ hd => mem_digits_lt ((isInitial_dropTrailingZeros _).subset hd)

theorem decode_le {width m n : Nat} (h : m ≤ n) (hn : n < radix ^ width) :
    decode width m ≤ decode width n := by
  rw [← codes_strictMono.le_iff_le, codes_decode, codes_decode]
  exact dropTrailingZeros_le (digits_le h hn)

/-- A text that is encoded and decoded loses only NULs at its end. -/
theorem decode_encode_le {width : Nat} {text : List Char} (hlength : text.length ≤ width)
    (hascii : ∀ c ∈ text, c.toNat < radix) : decode width (encode width text) ≤ text := by
  rw [← codes_strictMono.le_iff_le, codes_decode, digits_encode hlength hascii,
    dropTrailingZeros_append_zeros]
  exact le_of_isInitial (isInitial_dropTrailingZeros _)

end AsciiCode

end TableExchange
