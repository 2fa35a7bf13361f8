import Mathlib.Data.List.Forall2
import TableExchange.Proofs.Text.Utf8

/-!
# Texts and their bytes

* `Charset.Spells`: the bytes of a text in a charset, character by character.
* `Charset.encode_eq_some_iff`, `Charset.decode_eq_some_iff`: encoding and decoding find just these.
* `Charset.exists_spells_text`, `Charset.exists_spells_bytes`: which texts have bytes, and which
  bytes are those of a text.
-/

namespace TableExchange

namespace Charset

/-- The bytes of a character, which is given as its code point. -/
def SpellsChar : Charset → Nat → Bytes → Prop
  | .utf8, n, unit => Utf8.Spells n unit
  | .latin1, n, unit => n < 256 ∧ unit = [UInt8.ofNat n]
  | .ascii, n, unit => n < 128 ∧ unit = [UInt8.ofNat n]

/-- The bytes of a text: those of its characters one behind the other. -/
def Spells (cs : Charset) (text : String) (bytes : Bytes) : Prop :=
  ∃ units, List.Forall₂ (fun c unit => cs.SpellsChar c.toNat unit) text.toList units ∧
    bytes = units.flatten

/-- The code points of a repertoire are those below this one. -/
def repertoire : Charset → Nat
  | .utf8 => 0x110000
  | .latin1 => 256
  | .ascii => 128

/-- The bytes that some text has. -/
def Accepts : Charset → Bytes → Prop
  | .utf8, bytes => Utf8.IsWellFormed bytes
  | .latin1, _ => True
  | .ascii, bytes => ∀ b ∈ bytes, b.toNat < 128

variable {cs : Charset} {text : String} {bytes : Bytes}

/-! ## Encoding -/

theorem forall₂_eq_map_iff {α β : Type} {f : α → β} {as : List α} {bs : List β} :
    List.Forall₂ (fun a b => b = f a) as bs ↔ bs = as.map f := by
  have hflip : (fun a b => b = f a) = fun a b => f a = b := by
    funext a b
    exact propext eq_comm
  rw [hflip, ← List.forall₂_map_left_iff, List.forall₂_eq_eq_eq, eq_comm]

/-- Where the characters of a repertoire have one spelling each, so have the texts. -/
theorem spells_iff_of_spellsChar {f : Char → Bytes} {p : Char → Prop}
    (hchar : ∀ (c : Char) (unit : Bytes), cs.SpellsChar c.toNat unit ↔ p c ∧ unit = f c) :
    cs.Spells text bytes ↔ (∀ c ∈ text.toList, p c) ∧ bytes = text.toList.flatMap f := by
  unfold Spells
  simp only [hchar, List.forall₂_and_left, forall₂_eq_map_iff, and_assoc, exists_and_left,
    exists_eq_left, List.flatMap]

theorem spells_utf8_iff : Spells .utf8 text bytes ↔ bytes = text.toUTF8.data.toList := by
  have hbytes : text.toUTF8.data.toList = text.toList.flatMap String.utf8EncodeChar := by
    rw [String.toUTF8_eq_toByteArray, ← String.utf8Encode_toList, List.utf8Encode]
    exact List.toList_data_toByteArray
  rw [spells_iff_of_spellsChar (p := fun _ => True) fun c unit => by
    rw [SpellsChar, Utf8.spells_iff, true_and], hbytes]
  simp

theorem flatMap_singleton_eq_singleBytes :
    text.toList.flatMap (fun c => [UInt8.ofNat c.toNat]) = singleBytes text := by
  rw [singleBytes, List.map_eq_flatMap]

theorem spells_latin1_iff :
    Spells .latin1 text bytes ↔ (∀ c ∈ text.toList, c.toNat < 256) ∧ bytes = singleBytes text := by
  rw [spells_iff_of_spellsChar fun c unit => Iff.rfl, flatMap_singleton_eq_singleBytes]

theorem spells_ascii_iff :
    Spells .ascii text bytes ↔ (∀ c ∈ text.toList, c.toNat < 128) ∧ bytes = singleBytes text := by
  rw [spells_iff_of_spellsChar fun c unit => Iff.rfl, flatMap_singleton_eq_singleBytes]

theorem encode_eq_some_iff : encode text cs = some bytes ↔ cs.Spells text bytes := by
  cases cs with
  | utf8 => rw [spells_utf8_iff, encode, Option.some_inj, eq_comm]
  | latin1 =>
    rw [spells_latin1_iff, encode, Option.ite_none_right_eq_some, Option.some_inj,
      List.all_eq_true, eq_comm (a := bytes)]
    simp only [decide_eq_true_eq]
  | ascii =>
    rw [spells_ascii_iff, encode, Option.ite_none_right_eq_some, Option.some_inj, isAscii,
      List.all_eq_true, eq_comm (a := bytes)]
    simp only [decide_eq_true_eq]

/-! ## Decoding -/

theorem toNat_charOf {n : Nat} (h : n.isValidChar) : (Char.ofNat n).toNat = n := by
  rw [Char.ofNat, dif_pos h]
  rfl

theorem toNat_charOf_byte (b : UInt8) : (Char.ofNat b.toNat).toNat = b.toNat := by
  have hbyte := b.toNat_lt
  exact toNat_charOf (.inl (by omega))

theorem singleChars_singleBytes (h : ∀ c ∈ text.toList, c.toNat < 256) :
    singleChars (singleBytes text) = text := by
  have hchars : text.toList.map (fun c => Char.ofNat (UInt8.ofNat c.toNat).toNat) =
      text.toList := by
    refine (List.map_congr_left fun c hc => ?_).trans (List.map_id _)
    rw [Utf8.toNat_byte (h c hc), Char.ofNat_toNat, id]
  rw [singleChars, singleBytes, List.map_map, Function.comp_def, hchars, String.ofList_toList]

theorem singleBytes_singleChars (bytes : Bytes) : singleBytes (singleChars bytes) = bytes := by
  rw [singleBytes, singleChars, String.toList_ofList, List.map_map]
  refine (List.map_congr_left fun b _ => ?_).trans (List.map_id _)
  rw [Function.comp_apply, toNat_charOf_byte, UInt8.ofNat_toNat, id]

/-- The characters of bytes have their code points. -/
theorem forall_mem_singleChars {limit : Nat} :
    (∀ c ∈ (singleChars bytes).toList, c.toNat < limit) ↔ ∀ b ∈ bytes, b.toNat < limit := by
  simp [singleChars, toNat_charOf_byte]

theorem decode_eq_some_iff : decode bytes cs = some text ↔ cs.Spells text bytes := by
  cases cs with
  | utf8 =>
    rw [spells_utf8_iff, decode, String.fromUTF8?]
    constructor
    · intro h
      split at h
      · cases h
        rfl
      · cases h
    · rintro rfl
      exact dif_pos text.isValidUTF8
  | latin1 =>
    rw [spells_latin1_iff, decode, Option.some_inj]
    constructor
    · rintro rfl
      refine ⟨forall_mem_singleChars.2 fun b _ => b.toNat_lt, (singleBytes_singleChars bytes).symm⟩
    · rintro ⟨hchars, rfl⟩
      exact singleChars_singleBytes hchars
  | ascii =>
    rw [spells_ascii_iff, decode, Option.ite_none_right_eq_some, Option.some_inj, List.all_eq_true]
    simp only [decide_eq_true_eq]
    constructor
    · rintro ⟨hbytes, rfl⟩
      exact ⟨forall_mem_singleChars.2 hbytes, (singleBytes_singleChars bytes).symm⟩
    · rintro ⟨hchars, rfl⟩
      have htext : singleChars (singleBytes text) = text :=
        singleChars_singleBytes fun c hc => Nat.lt_trans (hchars c hc) (by decide)
      refine ⟨forall_mem_singleChars.1 ?_, htext⟩
      rwa [htext]

/-! ## What is accepted -/

theorem exists_encode_iff :
    (∃ bytes, encode text cs = some bytes) ↔ ∀ c ∈ text.toList, c.toNat < cs.repertoire := by
  cases cs with
  | utf8 =>
    refine iff_of_true ⟨_, rfl⟩ fun c _ => ?_
    have hvalid : c.toNat.isValidChar := c.valid
    show c.toNat < 0x110000
    omega
  | latin1 =>
    simp only [encode_eq_some_iff, spells_latin1_iff, exists_and_left, exists_eq, and_true]
    exact Iff.rfl
  | ascii =>
    simp only [encode_eq_some_iff, spells_ascii_iff, exists_and_left, exists_eq, and_true]
    exact Iff.rfl

/-- Bytes that are those of characters are those of some list of them. -/
theorem exists_chars_iff {units : List Bytes} :
    (∃ chars : List Char, List.Forall₂ (fun c unit => Utf8.Spells c.toNat unit) chars units) ↔
      ∀ unit ∈ units, ∃ n, Utf8.Spells n unit := by
  induction units with
  | nil => simp
  | cons unit units ih =>
    rw [List.forall_mem_cons, ← ih]
    constructor
    · rintro ⟨chars, hunits⟩
      obtain ⟨c, rest, hc, hrest, -⟩ := List.forall₂_cons_right_iff.1 hunits
      exact ⟨⟨_, hc⟩, rest, hrest⟩
    · rintro ⟨⟨n, hn⟩, rest, hrest⟩
      rw [← toNat_charOf hn.2.1] at hn
      exact ⟨_, .cons hn hrest⟩

theorem exists_spells_utf8_iff : (∃ text, Spells .utf8 text bytes) ↔ Utf8.IsWellFormed bytes := by
  constructor
  · rintro ⟨text, units, hunits, hbytes⟩
    exact ⟨units, exists_chars_iff.1 ⟨_, hunits⟩, hbytes⟩
  · rintro ⟨units, hunits, hbytes⟩
    obtain ⟨chars, hchars⟩ := exists_chars_iff.2 hunits
    refine ⟨String.ofList chars, units, ?_, hbytes⟩
    rwa [String.toList_ofList]

theorem exists_decode_iff : (∃ text, decode bytes cs = some text) ↔ cs.Accepts bytes := by
  cases cs with
  | utf8 =>
    simp only [decode_eq_some_iff]
    exact exists_spells_utf8_iff
  | latin1 => exact iff_of_true ⟨_, rfl⟩ trivial
  | ascii => simp [decode, Accepts]

end Charset

end TableExchange
