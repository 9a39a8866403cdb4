import Mathlib.Data.Nat.Log
import Sequencer.Proofs.Spelling

/-!
# Counter segments

A segment is rendered from the counter's value, and its width is taken from the ceiling's text. The
two line up because both count digits: a number has one digit more than its logarithm to the base
ten (`Text.length_natural`). A value from zero to the ceiling fills the width exactly, is read back
and keeps its order (`isNumeral_counterSegment`, `naturalValue_counterSegment`,
`counterSegment_lt_iff`). A value above the ceiling is written out whole
(`length_counterSegment_of_nonneg`), and the sign of a negative one spoils every text that it gets
into (`not_wellFormed_of_negative`).
-/

namespace Sequencer

open Text

/-- A number has one digit more than its logarithm to the base ten. -/
theorem Text.length_natural (n : Nat) : (natural n).length = Nat.log 10 n + 1 := by
  by_cases hn : n = 0
  · subst hn
    rfl
  · have low : 10 ^ Nat.log 10 n ≤ n := Nat.pow_log_le_self 10 hn
    have high : n < 10 ^ (Nat.log 10 n + 1) := Nat.lt_pow_succ_log_self (by omega) n
    exact length_natural_eq low high

namespace Identifier

section

variable {ceiling value : Int}

theorem counterWidth_eq (hc : 0 ≤ ceiling) :
    counterWidth ceiling = Nat.log 10 ceiling.toNat + 1 := by
  obtain ⟨n, rfl⟩ := Int.eq_ofNat_of_zero_le hc
  show (natural n).length = _
  rw [length_natural, Int.toNat_natCast]

theorem counterSegment_of_nonneg (low : 0 ≤ value) :
    counterSegment value ceiling = paddedNatural (counterWidth ceiling) value.toNat :=
  padded_of_nonneg _ low

theorem isNumeral_counterSegment (low : 0 ≤ value) (high : value ≤ ceiling) :
    IsNumeral (counterWidth ceiling) (counterSegment value ceiling) := by
  have hle : (value.toNat : Int) ≤ ceiling := by omega
  rw [counterSegment_of_nonneg low]
  exact isNumeral_counter hle

theorem isDigit_of_mem_counterSegment (low : 0 ≤ value) :
    ∀ c ∈ counterSegment value ceiling, c.isDigit = true := by
  intro c hc
  rw [counterSegment_of_nonneg low] at hc
  exact isDigit_of_mem_paddedNatural hc

/-- Zeros in front change no value, however many there are. -/
theorem naturalValue_counterSegment (low : 0 ≤ value) :
    (naturalValue (counterSegment value ceiling) : Int) = value := by
  rw [counterSegment_of_nonneg low, naturalValue_padded]
  exact Int.toNat_of_nonneg low

theorem length_counterSegment_of_nonneg (low : 0 ≤ value) :
    (counterSegment value ceiling).length =
      max (counterWidth ceiling) (Nat.log 10 value.toNat + 1) := by
  rw [counterSegment_of_nonneg low, length_paddedNatural, length_natural]

theorem counterSegment_lt_iff {value' : Int} (low : 0 ≤ value) (high : value ≤ ceiling)
    (low' : 0 ≤ value') (high' : value' ≤ ceiling) :
    String.ofList (counterSegment value ceiling) < String.ofList (counterSegment value' ceiling) ↔
      value < value' := by
  have hnum := isNumeral_counterSegment low high
  have hnum' := isNumeral_counterSegment low' high'
  have hvalue : (naturalValue (counterSegment value ceiling) : Int) = value :=
    naturalValue_counterSegment low
  have hvalue' : (naturalValue (counterSegment value' ceiling) : Int) = value' :=
    naturalValue_counterSegment low'
  rw [String.lt_iff, String.toList_ofList, String.toList_ofList, hnum.lt_iff hnum']
  omega

/-! ## Negative values -/

theorem not_wellFormed_of_mem {c : Char} {text : String} (hc : c.isDigit = false)
    (hmem : c ∈ text.toList) : wellFormed ceiling text = false := by
  cases hwell : wellFormed ceiling text with
  | false => rfl
  | true =>
    have hdigit := (wellFormed_iff.mp hwell).isDigit c hmem
    rw [hc] at hdigit
    cases hdigit

/-- The sign spoils any text around it, under whatever ceiling the text is checked. -/
theorem not_wellFormed_of_negative (hv : value < 0) (ceiling' : Int) (front back : List Char) :
    wellFormed ceiling' (String.ofList (front ++ counterSegment value ceiling ++ back)) =
      false := by
  have hminus : '-' ∈ counterSegment value ceiling := minus_mem_padded _ hv
  have hsign : Char.isDigit '-' = false := rfl
  apply not_wellFormed_of_mem hsign
  rw [String.toList_ofList]
  exact List.mem_append_left _ (List.mem_append_right _ hminus)

end

theorem commit_of_negative {c : Counter} (hv : c.effective < 0) (stamp : List Char)
    (suffix : Nat) : c.commit stamp suffix = .error (.malformed (c.compose stamp suffix)) := by
  have hwell : wellFormed c.ceiling (c.compose stamp suffix) = false :=
    not_wellFormed_of_negative hv c.ceiling stamp (natural suffix)
  unfold Counter.commit
  rw [hwell, if_neg Bool.false_ne_true]

/-- **Counter segments.** Under a ceiling that is not negative, every value from zero to the ceiling
has a segment of as many ASCII digits as the ceiling has, which reads back as the value, and the
segments are in the order of the values. A value above the ceiling is not cut: its segment has the
greater of the two numbers of digits and reads back too. The segment of a negative value holds a
minus sign, so no text that it gets into is well formed, and no counter commits it. -/
theorem counter_segments {ceiling : Int} (hc : 0 ≤ ceiling) :
    counterWidth ceiling = Nat.log 10 ceiling.toNat + 1 ∧
    (∀ v : Int, 0 ≤ v → v ≤ ceiling →
      IsNumeral (counterWidth ceiling) (counterSegment v ceiling) ∧
        (naturalValue (counterSegment v ceiling) : Int) = v) ∧
    (∀ v w : Int, 0 ≤ v → v ≤ ceiling → 0 ≤ w → w ≤ ceiling →
      (String.ofList (counterSegment v ceiling) < String.ofList (counterSegment w ceiling) ↔
        v < w)) ∧
    (∀ v : Int, ceiling < v →
      (∀ c ∈ counterSegment v ceiling, c.isDigit = true) ∧
        (naturalValue (counterSegment v ceiling) : Int) = v ∧
        (counterSegment v ceiling).length =
          max (counterWidth ceiling) (Nat.log 10 v.toNat + 1)) ∧
    ∀ v : Int, v < 0 →
      '-' ∈ counterSegment v ceiling ∧
        (∀ (ceiling' : Int) (front back : List Char),
          wellFormed ceiling' (String.ofList (front ++ counterSegment v ceiling ++ back)) =
            false) ∧
        ∀ c : Counter, c.ceiling = ceiling → c.effective = v → ∀ stamp suffix,
          c.commit stamp suffix = .error (.malformed (c.compose stamp suffix)) := by
  refine ⟨counterWidth_eq hc, ?_, ?_, ?_, ?_⟩
  · intro v low high
    exact ⟨isNumeral_counterSegment low high, naturalValue_counterSegment low⟩
  · intro v w low high low' high'
    exact counterSegment_lt_iff low high low' high'
  · intro v hv
    have low : 0 ≤ v := by omega
    exact ⟨isDigit_of_mem_counterSegment low, naturalValue_counterSegment low,
      length_counterSegment_of_nonneg low⟩
  · intro v hv
    refine ⟨minus_mem_padded _ hv, not_wellFormed_of_negative hv, ?_⟩
    rintro c - rfl stamp suffix
    exact commit_of_negative hv stamp suffix

/-- A ceiling just below a power of ten: the value one above it takes a fourth digit, and the one
below zero a sign in place of a digit. -/
theorem counter_segments_nines :
    (0 : Int) ≤ 999 ∧
      String.ofList (counterSegment 99 999) < String.ofList (counterSegment 100 999) ∧
      naturalValue (counterSegment 7 999) = 7 ∧ counterSegment 7 999 = ['0', '0', '7'] ∧
      (counterSegment 1000 999).length = 4 ∧ counterSegment (-1) 999 = ['-', '0', '1'] ∧
      wellFormed 999 "20260217093015123-01100000" = false ∧
      Counter.commit ⟨999, -1⟩ "20260217093015123".toList 100000 =
        .error (.malformed "20260217093015123-01100000") := by
  have hc : (0 : Int) ≤ 999 := by decide
  obtain ⟨-, hin, hlt, habove, hbelow⟩ := counter_segments hc
  have hseven : counterSegment 7 999 = ['0', '0', '7'] := by decide +kernel
  have hlog : max (counterWidth 999) (Nat.log 10 (1000 : Int).toNat + 1) = 4 := by decide +kernel
  obtain ⟨-, hwell, hcommit⟩ := hbelow (-1) (by decide)
  refine ⟨hc, (hlt 99 100 (by decide) (by decide) (by decide) (by decide)).mpr (by decide), ?_,
    hseven, ?_, by decide +kernel, ?_, ?_⟩
  · exact Int.ofNat.inj (hin 7 (by decide) (by decide)).2
  · rw [(habove 1000 (by decide)).2.2, hlog]
  · exact hwell 999 "20260217093015123".toList "100000".toList
  · exact hcommit ⟨999, -1⟩ rfl (by decide) _ 100000

end Identifier

end Sequencer
