import TableExchange.Cell.Conversion
import TableExchange.Proofs.Text.Charset

/-!
# Text as bytes and back

Each charset encodes the texts of its repertoire and decodes the bytes of these, so the two ways
undo each other. Of the bytes that UTF-8 refuses, three kinds are named: a pattern longer than the
shortest, a pattern of no character, and a pattern that breaks off.

* `Charset.decode_eq_none_of_pattern`, `Charset.decode_eq_none_of_cut`: these three.
* `Cell.asBytes_string`, `Cell.asString_bytes`: cells of text and of bytes.
* `Charset.encode_decode_inverse`: texts, bytes and cells.
-/

namespace TableExchange

namespace Charset

theorem decode_utf8_eq_none_iff {bytes : Bytes} :
    decode bytes .utf8 = none ↔ ¬Utf8.IsWellFormed bytes := by
  rw [← exists_spells_utf8_iff, Option.eq_none_iff_forall_ne_some, not_exists]
  simp only [Ne, decode_eq_some_iff]

variable {n : Nat} {before unit after part rest : Bytes}

/-- An overlong pattern, or one of a surrogate or of a number beyond the last code point. -/
theorem decode_eq_none_of_pattern (hbefore : Utf8.IsWellFormed before)
    (hpattern : Utf8.Pattern n unit) (hfault : Utf8.shortest n < unit.length ∨ ¬n.isValidChar) :
    decode (before ++ unit ++ after) .utf8 = none := by
  rw [decode_utf8_eq_none_iff, List.append_assoc, Utf8.isWellFormed_append_iff hbefore]
  intro h
  obtain ⟨-, hvalid, hlength⟩ := (h.of_pattern hpattern).1
  rcases hfault with hlong | hinvalid
  · omega
  · exact hinvalid hvalid

/-- A pattern that breaks off. -/
theorem decode_eq_none_of_cut (hbefore : Utf8.IsWellFormed before)
    (hpattern : Utf8.Pattern n (part ++ rest)) (hpart : part ≠ []) (hrest : rest ≠ []) :
    decode (before ++ part) .utf8 = none := by
  rw [decode_utf8_eq_none_iff, Utf8.isWellFormed_append_iff hbefore]
  exact Utf8.not_isWellFormed_of_cut hpattern hpart hrest

end Charset

namespace Cell

/-- A text outside the repertoire is refused, and every other one comes back from its bytes. -/
theorem asString_of_asBytes (codec : Codec) (text : Option String) (size : Nat) :
    (∃ bytes, (⟨.string text, size⟩ : Cell).asBytes codec = .ok bytes ∧
      (Cell.bytes bytes).asString codec = .ok text) ∨
    (⟨.string text, size⟩ : Cell).asBytes codec =
        .error ((⟨.string text, size⟩ : Cell).unsupported .bytes) ∧
      ∃ s, text = some s ∧ ∃ c ∈ s.toList, codec.charset.repertoire ≤ c.toNat := by
  cases text with
  | none => exact .inl ⟨none, rfl, rfl⟩
  | some s =>
    have hcell : (⟨.string (some s), size⟩ : Cell).asBytes codec =
        ((⟨.string (some s), size⟩ : Cell).coded .bytes (codec.encodeText s)).map some := rfl
    rw [hcell, Codec.encodeText]
    cases hencode : codec.charset.encode s with
    | some bytes =>
      have hdecode : codec.decodeBytes bytes = .ok s := by
        rw [Codec.decodeBytes, Charset.decode_eq_some_iff.2 (Charset.encode_eq_some_iff.1 hencode)]
      refine .inl ⟨some bytes, rfl, ?_⟩
      show ((Cell.bytes (some bytes)).coded .string (codec.decodeBytes bytes)).map some = _
      rw [hdecode]
      rfl
    | none =>
      have houtside : ¬∀ c ∈ s.toList, c.toNat < codec.charset.repertoire := by
        rw [← Charset.exists_encode_iff, hencode]
        simp
      refine .inr ⟨rfl, s, rfl, ?_⟩
      simpa using houtside

end Cell

/-- **Encoding and decoding undo each other.** In each charset a text has the bytes that decode to
it, which are those of its characters one behind the other. It has some exactly if all its characters
are in the repertoire, and bytes decode exactly if they are those of a text: in UTF-8, shortest
patterns of characters; in ISO-8859-1, any bytes; in US-ASCII, bytes below 128. So UTF-8 refuses,
behind any text, patterns that are too long, patterns of surrogates or of numbers beyond the last
code point, and patterns that break off. A cell of text that has bytes is given back by the cell of
these, under the same codec. -/
theorem Charset.encode_decode_inverse (cs : Charset) :
    (∀ text bytes, encode text cs = some bytes ↔ decode bytes cs = some text) ∧
    (∀ text bytes, encode text cs = some bytes ↔ cs.Spells text bytes) ∧
    (∀ text, (∃ bytes, encode text cs = some bytes) ↔
      ∀ c ∈ text.toList, c.toNat < cs.repertoire) ∧
    (∀ bytes, (∃ text, decode bytes cs = some text) ↔ cs.Accepts bytes) ∧
    (∀ n before unit after, Utf8.IsWellFormed before → Utf8.Pattern n unit →
      Utf8.shortest n < unit.length ∨ ¬n.isValidChar →
        decode (before ++ unit ++ after) .utf8 = none) ∧
    (∀ n before part rest, Utf8.IsWellFormed before → Utf8.Pattern n (part ++ rest) →
      part ≠ [] → rest ≠ [] → decode (before ++ part) .utf8 = none) ∧
    ∀ (codec : Codec) (text : Option String) (size : Nat),
      (∃ bytes, (⟨.string text, size⟩ : Cell).asBytes codec = .ok bytes ∧
        (Cell.bytes bytes).asString codec = .ok text) ∨
      (⟨.string text, size⟩ : Cell).asBytes codec =
          .error ((⟨.string text, size⟩ : Cell).unsupported .bytes) ∧
        ∃ s, text = some s ∧ ∃ c ∈ s.toList, codec.charset.repertoire ≤ c.toNat :=
  ⟨fun _ _ => encode_eq_some_iff.trans decode_eq_some_iff.symm, fun _ _ => encode_eq_some_iff,
    fun _ => exists_encode_iff, fun _ => exists_decode_iff,
    fun _ _ _ _ => decode_eq_none_of_pattern, fun _ _ _ _ => decode_eq_none_of_cut,
    Cell.asString_of_asBytes⟩

/-- Behind the letter é, NUL in two bytes, the first surrogate and a part of the euro sign are
refused. -/
theorem Charset.encode_decode_inverse_eAcute :
    Utf8.IsWellFormed [0xC3, 0xA9] ∧
    Utf8.Pattern 0 [0xC0, 0x80] ∧ decode [0xC3, 0xA9, 0xC0, 0x80, 0x41] .utf8 = none ∧
    Utf8.Pattern 0xD800 [0xED, 0xA0, 0x80] ∧ decode [0xC3, 0xA9, 0xED, 0xA0, 0x80] .utf8 = none ∧
    Utf8.Pattern 0x20AC [0xE2, 0x82, 0xAC] ∧ decode [0xC3, 0xA9, 0xE2, 0x82] .utf8 = none := by
  obtain ⟨-, -, -, -, hpatterns, hcuts, -⟩ := encode_decode_inverse .utf8
  have heAcute : Utf8.Pattern 0xE9 [0xC3, 0xA9] :=
    (Utf8.Pattern.two (by decide) ⟨by decide, by decide⟩).cast (by decide)
  have hbefore : Utf8.IsWellFormed [0xC3, 0xA9] :=
    Utf8.isWellFormed_nil.cons ⟨heAcute, by decide, by decide⟩
  have hnul : Utf8.Pattern 0 [0xC0, 0x80] :=
    (Utf8.Pattern.two (by decide) ⟨by decide, by decide⟩).cast (by decide)
  have hsurrogate : Utf8.Pattern 0xD800 [0xED, 0xA0, 0x80] :=
    (Utf8.Pattern.three (by decide) ⟨by decide, by decide⟩ ⟨by decide, by decide⟩).cast (by decide)
  have heuro : Utf8.Pattern 0x20AC [0xE2, 0x82, 0xAC] :=
    (Utf8.Pattern.three (by decide) ⟨by decide, by decide⟩ ⟨by decide, by decide⟩).cast (by decide)
  exact ⟨hbefore, hnul, hpatterns _ _ _ [0x41] hbefore hnul (.inl (by decide)), hsurrogate,
    hpatterns _ _ _ [] hbefore hsurrogate (.inr (by decide)), heuro,
    hcuts _ _ [0xE2, 0x82] [0xAC] hbefore heuro (by decide) (by decide)⟩

end TableExchange
