import TableExchange.Text.Charset

/-!
# UTF-8

A code point fills the payload bits of one to four bytes, of which the first one tells how many there
are. A character is written by the shortest such pattern.

* `Utf8.Pattern`: the bit patterns, of any length that holds the code point.
* `Utf8.Spells`: the bytes that a character has.
* `Utf8.Pattern.of_append`: the first byte of a pattern tells where it ends.
* `Utf8.spells_iff`: every character has its bytes, and no others.
-/

namespace TableExchange

namespace Utf8

/-- A byte behind the first one of a pattern: it begins with the bits `10`. -/
def IsTail (b : UInt8) : Prop := 0x80 ≤ b.toNat ∧ b.toNat < 0xC0

/-- The bytes whose payload bits are a number. The first byte begins with the bits `0`, `110`,
`1110` or `11110`. -/
inductive Pattern : Nat → Bytes → Prop
  | one {a : UInt8} (ha : a.toNat < 0x80) : Pattern a.toNat [a]
  | two {a b : UInt8} (ha : 0xC0 ≤ a.toNat ∧ a.toNat < 0xE0) (hb : IsTail b) :
    Pattern ((a.toNat - 0xC0) * 64 + (b.toNat - 0x80)) [a, b]
  | three {a b c : UInt8} (ha : 0xE0 ≤ a.toNat ∧ a.toNat < 0xF0) (hb : IsTail b) (hc : IsTail c) :
    Pattern (((a.toNat - 0xE0) * 64 + (b.toNat - 0x80)) * 64 + (c.toNat - 0x80)) [a, b, c]
  | four {a b c d : UInt8} (ha : 0xF0 ≤ a.toNat ∧ a.toNat < 0xF8) (hb : IsTail b) (hc : IsTail c)
    (hd : IsTail d) :
    Pattern ((((a.toNat - 0xF0) * 64 + (b.toNat - 0x80)) * 64 + (c.toNat - 0x80)) * 64 +
      (d.toNat - 0x80)) [a, b, c, d]

/-- How many bytes the shortest pattern of a number has. -/
def shortest (n : Nat) : Nat :=
  if n < 0x80 then 1 else if n < 0x800 then 2 else if n < 0x10000 then 3 else 4

/-- The bytes of a character: the shortest pattern of a code point that is no surrogate and not
beyond the last one. -/
def Spells (n : Nat) (unit : Bytes) : Prop :=
  Pattern n unit ∧ n.isValidChar ∧ unit.length = shortest n

variable {n m : Nat} {u v x y : Bytes}

/-! ## Patterns -/

/-- A pattern stands for one number. -/
theorem Pattern.unique (h : Pattern n u) (h' : Pattern m u) : n = m := by
  cases h <;> cases h' <;> rfl

/-- The last byte of a pattern holds the last six bits. -/
theorem IsTail.inj {b b' : UInt8} (hb : IsTail b) (hb' : IsTail b')
    (h : n * 64 + (b.toNat - 0x80) = m * 64 + (b'.toNat - 0x80)) : n = m ∧ b = b' := by
  obtain ⟨⟨hlow, hhigh⟩, hlow', hhigh'⟩ := And.intro hb hb'
  exact ⟨by omega, UInt8.toNat_inj.1 (by omega)⟩

theorem first_inj {a a' : UInt8} {low : Nat} (ha : low ≤ a.toNat) (ha' : low ≤ a'.toNat)
    (h : a.toNat - low = a'.toNat - low) : a = a' :=
  UInt8.toNat_inj.1 (by omega)

/-- A number has one pattern of each length. -/
theorem Pattern.eq_of_length (h : Pattern n u) (h' : Pattern m v) (hn : n = m)
    (hlength : u.length = v.length) : u = v := by
  cases h with
  | one ha =>
    cases h' with
    | one ha' => rw [UInt8.toNat_inj.1 hn]
    | two | three | four => cases hlength
  | two ha hb =>
    cases h' with
    | two ha' hb' =>
      obtain ⟨hfirst, rfl⟩ := hb.inj hb' hn
      rw [first_inj ha.1 ha'.1 hfirst]
    | one | three | four => cases hlength
  | three ha hb hc =>
    cases h' with
    | three ha' hb' hc' =>
      obtain ⟨hmiddle, rfl⟩ := hc.inj hc' hn
      obtain ⟨hfirst, rfl⟩ := hb.inj hb' hmiddle
      rw [first_inj ha.1 ha'.1 hfirst]
    | one | two | four => cases hlength
  | four ha hb hc hd =>
    cases h' with
    | four ha' hb' hc' hd' =>
      obtain ⟨hthird, rfl⟩ := hd.inj hd' hn
      obtain ⟨hsecond, rfl⟩ := hc.inj hc' hthird
      obtain ⟨hfirst, rfl⟩ := hb.inj hb' hsecond
      rw [first_inj ha.1 ha'.1 hfirst]
    | one | two | three => cases hlength

/-- The length of a pattern, by its first byte. -/
def lengthOf (a : UInt8) : Nat :=
  if a.toNat < 0x80 then 1 else if a.toNat < 0xE0 then 2 else if a.toNat < 0xF0 then 3 else 4

theorem Pattern.exists_first (h : Pattern n u) :
    ∃ a rest, u = a :: rest ∧ u.length = lengthOf a := by
  unfold lengthOf
  cases h with
  | one ha => exact ⟨_, _, rfl, by rw [if_pos ha]; rfl⟩
  | two ha =>
    exact ⟨_, _, rfl, by rw [if_neg (by omega), if_pos ha.2]; rfl⟩
  | three ha =>
    exact ⟨_, _, rfl, by rw [if_neg (by omega), if_neg (by omega), if_pos ha.2]; rfl⟩
  | four ha =>
    exact ⟨_, _, rfl, by rw [if_neg (by omega), if_neg (by omega), if_neg (by omega)]; rfl⟩

/-- Where two patterns begin one list of bytes, they are the same. -/
theorem Pattern.of_append (h : Pattern n u) (h' : Pattern m v) (happend : u ++ x = v ++ y) :
    u = v ∧ x = y := by
  obtain ⟨a, rest, rfl, hlength⟩ := h.exists_first
  obtain ⟨a', rest', rfl, hlength'⟩ := h'.exists_first
  obtain ⟨rfl, -⟩ := List.cons.inj happend
  exact List.append_inj happend (hlength.trans hlength'.symm)

/-! ## Characters -/

theorem toNat_byte (h : n < 256) : (UInt8.ofNat n).toNat = n := UInt8.toNat_ofNat_of_lt' h

/-- The last six bits of a number behind the bits `10`. -/
theorem toNat_tail (n : Nat) : (UInt8.ofNat (n % 64 + 128)).toNat = n % 64 + 128 :=
  toNat_byte (by omega)

theorem isTail_tail (n : Nat) : IsTail (UInt8.ofNat (n % 64 + 128)) := by
  have hvalue := toNat_tail n
  exact ⟨by omega, by omega⟩

theorem Pattern.cast (h : Pattern m u) (hn : m = n) : Pattern n u := hn ▸ h

theorem pattern_one (hn : n < 0x80) : Pattern n [UInt8.ofNat n] := by
  have hvalue : (UInt8.ofNat n).toNat = n := toNat_byte (by omega)
  exact (Pattern.one (by omega)).cast hvalue

theorem pattern_two (hn : n < 0x800) :
    Pattern n [UInt8.ofNat (n / 64 % 32 + 192), UInt8.ofNat (n % 64 + 128)] := by
  have hfirst : (UInt8.ofNat (n / 64 % 32 + 192)).toNat = n / 64 % 32 + 192 :=
    toNat_byte (by omega)
  refine (Pattern.two (by omega) (isTail_tail n)).cast ?_
  rw [hfirst, toNat_tail]
  omega

theorem pattern_three (hn : n < 0x10000) :
    Pattern n [UInt8.ofNat (n / 4096 % 16 + 224), UInt8.ofNat (n / 64 % 64 + 128),
      UInt8.ofNat (n % 64 + 128)] := by
  have hfirst : (UInt8.ofNat (n / 4096 % 16 + 224)).toNat = n / 4096 % 16 + 224 :=
    toNat_byte (by omega)
  refine (Pattern.three (by omega) (isTail_tail _) (isTail_tail n)).cast ?_
  rw [hfirst, toNat_tail, toNat_tail]
  omega

theorem pattern_four (hn : n < 0x200000) :
    Pattern n [UInt8.ofNat (n / 262144 % 8 + 240), UInt8.ofNat (n / 4096 % 64 + 128),
      UInt8.ofNat (n / 64 % 64 + 128), UInt8.ofNat (n % 64 + 128)] := by
  have hfirst : (UInt8.ofNat (n / 262144 % 8 + 240)).toNat = n / 262144 % 8 + 240 :=
    toNat_byte (by omega)
  refine (Pattern.four (by omega) (isTail_tail _) (isTail_tail _) (isTail_tail n)).cast ?_
  rw [hfirst, toNat_tail, toNat_tail, toNat_tail]
  omega

/-- The bytes of a character are the pattern of its size. -/
theorem spells_utf8EncodeChar (c : Char) : Spells c.toNat (String.utf8EncodeChar c) := by
  have hvalid : c.toNat.isValidChar := c.valid
  have hcases : Pattern c.toNat (String.utf8EncodeChar c) ∧
      (String.utf8EncodeChar c).length = shortest c.toNat := by
    unfold String.utf8EncodeChar shortest
    unfold Char.toNat at hvalid ⊢
    dsimp only
    split
    · next hone =>
      rw [if_pos (by omega)]
      exact ⟨pattern_one (by omega), rfl⟩
    split
    · next hone htwo =>
      rw [if_neg (by omega), if_pos (by omega)]
      exact ⟨pattern_two (by omega), rfl⟩
    split
    · next hone htwo hthree =>
      rw [if_neg (by omega), if_neg (by omega), if_pos (by omega)]
      exact ⟨pattern_three (by omega), rfl⟩
    · next hone htwo hthree =>
      rw [if_neg (by omega), if_neg (by omega), if_neg (by omega)]
      exact ⟨pattern_four (by omega), rfl⟩
  exact ⟨hcases.1, hvalid, hcases.2⟩

theorem spells_iff {c : Char} : Spells c.toNat u ↔ u = String.utf8EncodeChar c := by
  constructor
  · intro h
    obtain ⟨hpattern, -, hlength⟩ := spells_utf8EncodeChar c
    exact h.1.eq_of_length hpattern rfl (h.2.2.trans hlength.symm)
  · rintro rfl
    exact spells_utf8EncodeChar c

/-! ## Texts -/

/-- Characters one behind the other. -/
def IsWellFormed (bytes : Bytes) : Prop :=
  ∃ units : List Bytes, (∀ unit ∈ units, ∃ n, Spells n unit) ∧ bytes = units.flatten

theorem isWellFormed_nil : IsWellFormed [] := ⟨[], by simp, rfl⟩

theorem IsWellFormed.cons (hu : Spells n u) (h : IsWellFormed x) : IsWellFormed (u ++ x) := by
  obtain ⟨units, hunits, rfl⟩ := h
  exact ⟨u :: units, List.forall_mem_cons.2 ⟨⟨n, hu⟩, hunits⟩, rfl⟩

theorem IsWellFormed.cases (h : IsWellFormed x) :
    x = [] ∨ ∃ n u y, Spells n u ∧ IsWellFormed y ∧ x = u ++ y := by
  obtain ⟨units, hunits, rfl⟩ := h
  cases units with
  | nil => exact .inl rfl
  | cons u units =>
    obtain ⟨⟨n, hu⟩, hrest⟩ := List.forall_mem_cons.1 hunits
    exact .inr ⟨n, u, units.flatten, hu, ⟨units, hrest, rfl⟩, rfl⟩

/-- A text that begins with a pattern begins with this character. -/
theorem IsWellFormed.of_pattern (h : IsWellFormed (u ++ x)) (hpattern : Pattern n u) :
    Spells n u ∧ IsWellFormed x := by
  obtain ⟨a, rest, rfl, -⟩ := hpattern.exists_first
  rcases h.cases with hnil | ⟨m, v, y, hv, hy, happend⟩
  · cases hnil
  · obtain ⟨rfl, rfl⟩ := hpattern.of_append hv.1 happend
    rw [hpattern.unique hv.1]
    exact ⟨hv, hy⟩

/-- Behind a text, bytes are well formed or not by themselves. -/
theorem isWellFormed_append_iff (h : IsWellFormed x) :
    IsWellFormed (x ++ y) ↔ IsWellFormed y := by
  obtain ⟨units, hunits, rfl⟩ := h
  induction units with
  | nil => exact Iff.rfl
  | cons u units ih =>
    obtain ⟨⟨n, hu⟩, hrest⟩ := List.forall_mem_cons.1 hunits
    rw [List.flatten_cons, List.append_assoc, ← ih hrest]
    exact ⟨fun h => (h.of_pattern hu.1).2, .cons hu⟩

/-- A pattern that breaks off is no text. -/
theorem not_isWellFormed_of_cut (hpattern : Pattern n (x ++ y)) (hx : x ≠ []) (hy : y ≠ []) :
    ¬IsWellFormed x := by
  intro h
  rcases h.cases with hnil | ⟨m, u, z, hu, -, rfl⟩
  · exact hx hnil
  · have happend : (u ++ z) ++ y ++ [] = u ++ (z ++ y) := by simp
    obtain ⟨hwhole, -⟩ := hpattern.of_append hu.1 happend
    simp [hy] at hwhole

end Utf8

end TableExchange
