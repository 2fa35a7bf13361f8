import TableExchange.Proofs.Split.AsciiCodeOrder
import TableExchange.Proofs.Split.EvenBoundaries
import TableExchange.Proofs.Split.Planning
import TableExchange.Proofs.Split.Ranges
import TableExchange.Proofs.Text.ByteOrder

/-!
# Plans between two texts

A table whose keys are texts between two ASCII bounds is divided exactly, on a database that
compares bytes. The boundaries between the bounds have no NULs at their end, so that the first of
them can be below a lower bound that has some; the ranges are exact all the same.

* `pairwise_innerTexts`: the boundaries behind the first one ascend.
* `text_plan_partitions`: each row between the bounds is read by one range.
-/

namespace TableExchange

open Splitter

variable {row : Row} {s : Splitter} {table column a b : String} {predicate : Option String}
  {count : Nat}

/-- The statistics of texts between two bounds, in either order. -/
def textBounds (table column a b : String) : KeyStats :=
  ⟨table, column, .string, .bounds (some (.text a)) (some (.text b))⟩

/-! ## Boundaries -/

/-- How many characters the texts between two bounds have at most. -/
def boundsWidth (a b : String) : Nat := max a.toList.length b.toList.length

/-- The numbers between those of two bounds. -/
abbrev innerCodes (a b : String) (count : Nat) : List Int :=
  (evenBoundaries (AsciiCode.encode (boundsWidth a b) a.toList)
    (AsciiCode.encode (boundsWidth a b) b.toList) count).tail.dropLast

abbrev innerText (a b : String) (n : Int) : String :=
  String.ofList (AsciiCode.decode (boundsWidth a b) n.toNat)

theorem asciiBoundaries_eq (a b : String) (count : Nat) :
    Strategy.asciiBoundaries a b count =
      lesserText a b :: ((innerCodes a b count).map (innerText a b) ++ [greaterText a b]) := by
  unfold Strategy.asciiBoundaries lesserText greaterText
  by_cases h : a ≤ b
  · have hbytes : utf8Bytes a ≤ utf8Bytes b := utf8Bytes_le_iff.2 h
    rw [if_pos h, if_pos hbytes, if_pos hbytes]
    rfl
  · have hbytes : ¬utf8Bytes a ≤ utf8Bytes b := fun h' => h (utf8Bytes_le_iff.1 h')
    rw [if_neg h, if_neg hbytes, if_neg hbytes]
    rfl

theorem length_innerCodes (a b : String) (hcount : 0 < count) :
    (innerCodes a b count).length = count - 1 := by
  rw [List.length_dropLast, List.length_tail, length_evenBoundaries _ _ hcount]
  omega

theorem length_le_boundsWidth (a b : String) :
    a.toList.length ≤ boundsWidth a b ∧ b.toList.length ≤ boundsWidth a b :=
  ⟨Nat.le_max_left _ _, Nat.le_max_right _ _⟩

theorem length_greaterText_le (a b : String) :
    (greaterText a b).toList.length ≤ boundsWidth a b := by
  obtain ⟨hlength, hlength'⟩ := length_le_boundsWidth a b
  rcases greaterText_eq_or a b with h | h <;> rw [h]
  · exact hlength
  · exact hlength'

theorem ascii_greaterText (ha : isAscii a = true) (hb : isAscii b = true) :
    ∀ c ∈ (greaterText a b).toList, c.toNat < AsciiCode.radix := by
  rcases greaterText_eq_or a b with h | h <;> rw [h]
  · exact AsciiCode.isAscii_iff.1 ha
  · exact AsciiCode.isAscii_iff.1 hb

/-- A number between those of two bounds is at most that of the greater bound. -/
theorem bounds_of_mem_innerCodes (ha : isAscii a = true) (hb : isAscii b = true)
    (hcount : 0 < count) {n : Int} (hn : n ∈ innerCodes a b count) :
    0 ≤ n ∧ n.toNat ≤ AsciiCode.encode (boundsWidth a b) (greaterText a b).toList := by
  have hmem : n ∈ evenBoundaries _ _ count :=
    List.mem_of_mem_tail ((List.dropLast_sublist _).subset hn)
  obtain ⟨hlow, hhigh⟩ := bounds_of_mem_evenBoundaries hcount hmem
  obtain ⟨hale, hble⟩ := le_greaterText a b
  obtain ⟨hlength, hlength'⟩ := length_le_boundsWidth a b
  have hgreater := length_greaterText_le a b
  have hea := AsciiCode.encode_le hlength hgreater (AsciiCode.isAscii_iff.1 ha)
    (String.le_iff_toList_le.1 hale)
  have heb := AsciiCode.encode_le hlength' hgreater (AsciiCode.isAscii_iff.1 hb)
    (String.le_iff_toList_le.1 hble)
  omega

/-- The boundaries behind the first one ascend, up to the greater bound. -/
theorem pairwise_innerTexts (ha : isAscii a = true) (hb : isAscii b = true) (hcount : 0 < count) :
    ((innerCodes a b count).map (innerText a b) ++ [greaterText a b]).Pairwise (· ≤ ·) := by
  have hlength := length_greaterText_le a b
  have hascii := ascii_greaterText ha hb
  have hlt := AsciiCode.encode_lt hlength hascii
  have hsorted : (innerCodes a b count).Pairwise (· ≤ ·) :=
    (pairwise_evenBoundaries _ _ hcount).sublist
      ((List.dropLast_sublist _).trans (List.tail_sublist _))
  rw [List.pairwise_append, List.pairwise_map]
  refine ⟨hsorted.imp_of_mem fun {m n} _ hn hle => ?_, List.pairwise_singleton _ _, ?_⟩
  · obtain ⟨-, hbound⟩ := bounds_of_mem_innerCodes ha hb hcount hn
    rw [String.le_iff_toList_le, innerText, innerText, String.toList_ofList, String.toList_ofList]
    exact AsciiCode.decode_le (Int.toNat_le_toNat hle) (Nat.lt_of_le_of_lt hbound hlt)
  · intro t ht u hu
    obtain ⟨n, hn, rfl⟩ := List.mem_map.1 ht
    rw [List.mem_singleton.1 hu]
    obtain ⟨-, hbound⟩ := bounds_of_mem_innerCodes ha hb hcount hn
    rw [String.le_iff_toList_le, innerText, String.toList_ofList]
    exact le_trans (AsciiCode.decode_le hbound hlt)
      (AsciiCode.decode_encode_le hlength hascii)

/-! ## Planning -/

def textPoints (a b : String) (count : Nat) : List SplitPoint :=
  (Strategy.asciiBoundaries a b count).map .text

theorem length_textPoints (a b : String) (hcount : 0 < count) :
    (textPoints a b count).length = count + 1 := by
  rw [textPoints, asciiBoundaries_eq, List.length_map, List.length_cons, List.length_append,
    List.length_map, length_innerCodes a b hcount, List.length_singleton]
  omega

theorem returns_textBounds (s : Splitter) (table column : String) (predicate : Option String)
    (hcount : 2 ≤ count) (ha : isAscii a = true) (hb : isAscii b = true) :
    (s.planFromStats (textBounds table column a b) predicate count).Returns
      (s.rangePlan (textBounds table column a b) predicate (textPoints a b count)) := by
  refine returns_ranges hcount rfl ?_
  show (if isAscii a && isAscii b then _ else _) = _
  rw [ha, hb]
  rfl

theorem ranges_textBounds (s : Splitter) (table column a b : String) (points : List SplitPoint) :
    s.ranges (textBounds table column a b) points =
      rangeConditions column (operands s.dialect points) := rfl

theorem countTrue_text (ha : isAscii a = true) (hb : isAscii b = true) (hcount : 0 < count)
    {t : String} (hkey : row.key column = some (.text t))
    (hlow : utf8Bytes (lesserText a b) ≤ utf8Bytes t)
    (hhigh : utf8Bytes t ≤ utf8Bytes (greaterText a b)) :
    countTrue .bytes row
      (rangeConditions column (operands s.dialect (textPoints a b count))) = 1 := by
  rw [textPoints, asciiBoundaries_eq, List.map_cons, List.map_append, List.map_singleton]
  refine countTrue_rangeConditions hkey ?_ (Collation.bytes_le_text.2 (utf8Bytes_le_iff.1 hlow))
    (Collation.bytes_le_text.2 (utf8Bytes_le_iff.1 hhigh))
  rw [← List.map_singleton, ← List.map_append, List.pairwise_map]
  exact (pairwise_innerTexts ha hb hcount).imp Collation.bytes_le_text.2

/-- **A plan between two ASCII texts divides the keys between them exactly.** On a database that
compares texts by their bytes, a row that meets the user's condition and whose key lies between the
bounds is read by just one range; the key may be longer than the bounds, and need not be ASCII. A row
without a key is read by just the last fragment, and a row that does not meet the condition by none.
The fragments' texts read back as the conditions that this is said of, for each column name. -/
theorem text_plan_partitions (s : Splitter) (table column a b : String)
    (predicate : Option String) (count : Nat) (hcount : 2 ≤ count) (ha : isAscii a = true)
    (hb : isAscii b = true) :
    ∃ plan : SplitPlan,
      (s.planFromStats (textBounds table column a b) predicate count).Returns plan ∧
      plan.fragments.map (·.isNullPartition) = List.replicate count false ++ [true] ∧
      (Sql.isName column = true → plan.ReadBack column s.dialect.features.escape predicate) ∧
      ∀ row : Row,
        (∀ t, row.Meets predicate → row.key column = some (.text t) →
          utf8Bytes (lesserText a b) ≤ utf8Bytes t → utf8Bytes t ≤ utf8Bytes (greaterText a b) →
            ∃ f, plan.selected .bytes row = [f] ∧ f.isNullPartition = false) ∧
        (row.Meets predicate → row.key column = none →
          plan.selected .bytes row = [.nullPartition column predicate]) ∧
        (¬row.Meets predicate → plan.selected .bytes row = []) := by
  have hpos : 0 < count := by omega
  refine ⟨_, returns_textBounds s table column predicate hcount ha hb, ?_, fun hname => ?_,
    fun row => ⟨fun t hmeets hkey hlow hhigh => ?_, fun hmeets hkey => ?_,
      fun hmeets => selected_ofRanges_of_not_meets hmeets _⟩⟩
  · rw [isNullPartition_ofRanges, ranges_textBounds, length_rangeConditions]
    simp [operands, length_textPoints a b hpos]
  · exact readBack_ofRanges hname (fun c hc => written_rangeConditions hc) predicate
  · exact selected_of_countTrue_eq_one hmeets hkey (countTrue_text ha hb hpos hkey hlow hhigh)
  · exact selected_of_null hmeets hkey fun c hc => not_truth_rangeConditions_of_null hkey hc

/-- The lower bound ends in NUL, and both boundaries between the bounds are below it. A row with the
lower bound as its key is read once all the same. -/
theorem text_plan_partitions_nul :
    2 ≤ 3 ∧ isAscii "a\x00" = true ∧ isAscii "a\x01" = true ∧
    textPoints "a\x00" "a\x01" 3 = [.text "a\x00", .text "a", .text "a", .text "a\x01"] ∧
    ∃ plan : SplitPlan,
      (planFromStats { dialect := .oracle } (textBounds "people" "name" "a\x00" "a\x01") none
        3).Returns plan ∧
      plan.fragments.map (·.isNullPartition) = [false, false, false, true] ∧
      ∃ f, plan.selected .bytes ⟨fun _ => some (.text "a\x00"), fun _ => .yes⟩ = [f] ∧
        f.isNullPartition = false := by
  refine ⟨by decide, by decide, by decide, by decide, ?_⟩
  obtain ⟨plan, hreturns, hflags, -, hrows⟩ :=
    text_plan_partitions { dialect := .oracle } "people" "name" "a\x00" "a\x01" none 3
      (by decide) (by decide) (by decide)
  refine ⟨plan, hreturns, hflags, ?_⟩
  exact (hrows _).1 "a\x00" (fun _ h => by cases h) rfl (by decide) (by decide)

end TableExchange
