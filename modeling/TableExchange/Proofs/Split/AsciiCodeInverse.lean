import TableExchange.Proofs.Split.AsciiCodeOrder
import TableExchange.Proofs.Text.ByteOrder

/-!
# Texts and their numbers in one order

The texts of at most `width` ASCII characters with no NUL at their end and the numbers below
`radix ^ width` correspond to each other, and are in one order. NULs at the end of a text do not
change its number.

* `Fits`: the texts that have a number.
* `withoutNuls`, `DifferInNuls`: a text without the NULs at its end, and two texts that differ in
  nothing else.
* `encode_decode`, `decode_encode`: each of the two takes back what the other did, NULs apart.
* `encode_eq_iff`: the texts with one number.
* `isomorphism_up_to_nuls`: both directions, with the order.
-/

namespace TableExchange

namespace AsciiCode

variable {width m n : Nat} {s t : String} {text xs ys : List Char}

/-- The character that texts are filled up with. -/
def nul : Char := Char.ofNat 0

/-- The texts that have a number of `width` digits. -/
structure Fits (width : Nat) (s : String) : Prop where
  ascii : isAscii s = true
  length : s.toList.length ≤ width

/-- A text without the NULs at its end. -/
def withoutNuls (text : List Char) : List Char := text.rdropWhile (· == nul)

/-- Whether two texts are one text, with any number of NULs behind it in each. -/
def DifferInNuls (xs ys : List Char) : Prop :=
  ∃ (text : List Char) (i j : Nat),
    xs = text ++ List.replicate i nul ∧ ys = text ++ List.replicate j nul

/-! ## NULs at the end of a text -/

theorem withoutNuls_append_nuls (text : List Char) (k : Nat) :
    withoutNuls (text ++ List.replicate k nul) = withoutNuls text :=
  rdropWhile_append fun _ hc => beq_iff_eq.2 (List.eq_of_mem_replicate hc)

theorem differInNuls_iff : DifferInNuls xs ys ↔ withoutNuls xs = withoutNuls ys := by
  constructor
  · rintro ⟨text, i, j, rfl, rfl⟩
    rw [withoutNuls_append_nuls, withoutNuls_append_nuls]
  · intro h
    obtain ⟨i, hi⟩ := exists_repeated nul xs
    obtain ⟨j, hj⟩ := exists_repeated nul ys
    refine ⟨withoutNuls xs, i, j, hi, ?_⟩
    rw [h]
    exact hj

theorem toNat_eq_zero_iff {c : Char} : c.toNat = 0 ↔ c = nul := by
  rw [← Char.toNat_inj]
  exact Iff.rfl

/-- NULs at the end of a text are zeros at the end of its codes. -/
theorem codes_withoutNuls (text : List Char) :
    codes (withoutNuls text) = dropTrailingZeros (codes text) := by
  have hnul : (fun d : Nat => decide (d = 0)) ∘ Char.toNat = (· == nul) := by
    funext c
    rw [Function.comp, Bool.eq_iff_iff, decide_eq_true_eq, beq_iff_eq, toNat_eq_zero_iff]
  rw [dropTrailingZeros, codes, codes, ← List.map_reverse, List.dropWhile_map, hnul,
    ← List.map_reverse]
  rfl

/-- Filled up with NULs, a text keeps its number. -/
theorem encode_append_nuls {k : Nat} (h : text.length + k ≤ width) :
    encode width (text ++ List.replicate k nul) = encode width text := by
  have hfill : k + (width - (text.length + k)) = width - text.length := by omega
  rw [encode, encode, List.append_assoc, List.length_append, List.length_replicate, nul,
    List.replicate_append_replicate, hfill]

/-! ## The text of a number -/

theorem length_digits (width n : Nat) : (digits width n).length = width := by
  induction width generalizing n with
  | zero => rfl
  | succ width ih => rw [digits, List.length_append, ih, List.length_singleton]

theorem digits_inj (hm : m < radix ^ width) (hn : n < radix ^ width)
    (h : digits width m = digits width n) : m = n := by
  induction width generalizing m n with
  | zero =>
    rw [Nat.pow_zero, Nat.lt_one_iff] at hm hn
    rw [hm, hn]
  | succ width ih =>
    have hpos : 0 < radix ^ width := Nat.pow_pos (by decide)
    rw [digits_succ hm, digits_succ hn] at h
    obtain ⟨hfirst, hrest⟩ := List.cons.inj h
    rw [← Nat.div_add_mod m (radix ^ width), ← Nat.div_add_mod n (radix ^ width), hfirst,
      ih (Nat.mod_lt _ hpos) (Nat.mod_lt _ hpos) hrest]

/-- The zeros that were taken off the end, put there again. -/
theorem dropTrailingZeros_append (ds : List Nat) :
    dropTrailingZeros ds ++ List.replicate (ds.length - (dropTrailingZeros ds).length) 0 = ds := by
  obtain ⟨k, hk⟩ : ∃ k, ds = dropTrailingZeros ds ++ List.replicate k 0 := exists_repeated 0 ds
  have hlength := congrArg List.length hk
  rw [List.length_append, List.length_replicate] at hlength
  rw [show ds.length - (dropTrailingZeros ds).length = k by omega]
  exact hk.symm

theorem length_decode (width n : Nat) :
    (decode width n).length = (dropTrailingZeros (digits width n)).length := by
  rw [decode, List.length_map]

theorem length_decode_le (width n : Nat) : (decode width n).length ≤ width := by
  have hle := (isInitial_dropTrailingZeros (digits width n)).length_le
  rwa [length_digits, ← length_decode] at hle

theorem mem_decode_lt {c : Char} (h : c ∈ decode width n) : c.toNat < radix := by
  have hcode : c.toNat ∈ codes (decode width n) := List.mem_map_of_mem h
  rw [codes_decode] at hcode
  exact mem_digits_lt ((isInitial_dropTrailingZeros _).subset hcode)

theorem fits_decode (width n : Nat) : Fits width (String.ofList (decode width n)) := by
  refine ⟨isAscii_iff.2 fun c hc => ?_, ?_⟩
  · rw [String.toList_ofList] at hc
    exact mem_decode_lt hc
  · rw [String.toList_ofList]
    exact length_decode_le width n

theorem encode_decode (hn : n < radix ^ width) : encode width (decode width n) = n := by
  have hlength := length_decode_le width n
  have hascii : ∀ c ∈ decode width n, c.toNat < radix := fun c hc => mem_decode_lt hc
  have hfill := dropTrailingZeros_append (digits width n)
  rw [length_digits, ← length_decode] at hfill
  refine digits_inj (encode_lt hlength hascii) hn ?_
  rw [digits_encode hlength hascii, codes_decode, hfill]

theorem decode_lt (h : m < n) (hn : n < radix ^ width) : decode width m < decode width n := by
  refine lt_of_le_of_ne (decode_le h.le hn) fun heq => h.ne ?_
  rw [← encode_decode (h.trans hn), heq, encode_decode hn]

/-- No NUL stands at the end. -/
theorem getLast?_decode (width n : Nat) : (decode width n).getLast? ≠ some nul := by
  intro h
  have hcodes : (codes (decode width n)).getLast? = some 0 := by
    rw [codes, List.getLast?_map, h]
    rfl
  rw [codes_decode] at hcodes
  cases getLast?_rdropWhile hcodes

/-! ## The number of a text -/

theorem decode_encode (h : Fits width s) :
    decode width (encode width s.toList) = withoutNuls s.toList := by
  refine codes_strictMono.injective ?_
  rw [codes_decode, digits_encode h.length (isAscii_iff.1 h.ascii), dropTrailingZeros_append_zeros,
    codes_withoutNuls]

theorem encode_eq_iff (hs : Fits width s) (ht : Fits width t) :
    encode width s.toList = encode width t.toList ↔ DifferInNuls s.toList t.toList := by
  refine ⟨fun h => ?_, fun ⟨text, i, j, hi, hj⟩ => ?_⟩
  · rw [differInNuls_iff, ← decode_encode hs, ← decode_encode ht, h]
  · have hslength := hs.length
    have htlength := ht.length
    rw [hi, List.length_append, List.length_replicate] at hslength
    rw [hj, List.length_append, List.length_replicate] at htlength
    rw [hi, hj, encode_append_nuls hslength, encode_append_nuls htlength]

/-! ## The order -/

/-- **Texts and their numbers correspond to each other in one order, up to NULs at the end.** A text
of at most `width` ASCII characters has a number below `radix ^ width`, from which it is read back
without the NULs at its end. A text that is at most another one by its bytes has a number that is at
most that one's, and two texts have one number just if they differ in nothing but such NULs. Each
number below `radix ^ width` is that of its text, which fits and has no NUL at its end, and a
greater number has a text that is greater by its bytes. -/
theorem isomorphism_up_to_nuls (width : Nat) :
    (∀ s : String, Fits width s →
      encode width s.toList < radix ^ width ∧
      decode width (encode width s.toList) = withoutNuls s.toList) ∧
    (∀ s t : String, Fits width s → Fits width t →
      (utf8Bytes s ≤ utf8Bytes t → encode width s.toList ≤ encode width t.toList) ∧
      (encode width s.toList = encode width t.toList ↔ DifferInNuls s.toList t.toList)) ∧
    (∀ n < radix ^ width,
      Fits width (String.ofList (decode width n)) ∧
      (decode width n).getLast? ≠ some nul ∧
      encode width (decode width n) = n) ∧
    ∀ m n, m < n → n < radix ^ width →
      utf8Bytes (String.ofList (decode width m)) < utf8Bytes (String.ofList (decode width n)) := by
  refine ⟨fun s hs => ⟨encode_lt hs.length (isAscii_iff.1 hs.ascii), decode_encode hs⟩,
    fun s t hs ht => ⟨fun h => ?_, encode_eq_iff hs ht⟩,
    fun n hn => ⟨fits_decode width n, getLast?_decode width n, encode_decode hn⟩,
    fun m n h hn => ?_⟩
  · rw [utf8Bytes_le_iff, String.le_iff_toList_le] at h
    exact encode_le hs.length ht.length (isAscii_iff.1 hs.ascii) h
  · rw [utf8Bytes_lt_iff, String.lt_iff_toList_lt, String.toList_ofList, String.toList_ofList]
    exact decode_lt h hn

/-- The NUL at the end of a text is lost, and one in its middle is not. -/
theorem isomorphism_up_to_nuls_middle :
    Fits 3 "a\x00" ∧ Fits 3 "a" ∧ 1589248 < 1589249 ∧ 1589249 < radix ^ 3 ∧
    decode 3 1589248 = ['a'] ∧ decode 3 1589249 = ['a', nul, Char.ofNat 1] ∧
    decode 3 (encode 3 "a\x00".toList) = withoutNuls "a\x00".toList ∧
    encode 3 "a".toList ≤ encode 3 "a\x00".toList ∧
    (encode 3 "a\x00".toList = encode 3 "a".toList ↔ DifferInNuls "a\x00".toList "a".toList) ∧
    encode 3 (decode 3 1589249) = 1589249 ∧
    utf8Bytes (String.ofList (decode 3 1589248)) <
      utf8Bytes (String.ofList (decode 3 1589249)) := by
  have hnul : Fits 3 "a\x00" := ⟨by decide, by decide⟩
  have hplain : Fits 3 "a" := ⟨by decide, by decide⟩
  have hbound : 1589249 < radix ^ 3 := by decide
  obtain ⟨hread, hpair, hnumber, horder⟩ := isomorphism_up_to_nuls 3
  exact ⟨hnul, hplain, by decide, hbound, by decide, by decide, (hread _ hnul).2,
    (hpair _ _ hplain hnul).1 (by decide), (hpair _ _ hnul hplain).2, (hnumber _ hbound).2.2,
    horder _ _ (by decide) hbound⟩

end AsciiCode

end TableExchange
