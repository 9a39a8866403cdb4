import Mathlib.Algebra.Group.Nat.Defs
import Sequencer.Text.Integer

/-!
# Decimal texts: width, digits, injectivity

What the layout of identifiers rests on. A natural number has at most `k` digits iff it is below
`10 ^ k` (`length_natural_le_iff`), so a smaller number is never wider (`length_natural_mono`);
its text, padded or not, holds ASCII digits only, and different numbers have different texts.
A padded integer holds digits only iff it is not negative (`all_isDigit_padded_iff`): the minus
sign takes one of the places.
-/

namespace Sequencer.Text

/-! ## Natural numbers -/

theorem length_natural_pos (n : Nat) : 0 < (natural n).length := Nat.length_toDigits_pos

theorem length_natural_le_iff {n k : Nat} (hk : 0 < k) :
    (natural n).length ≤ k ↔ n < 10 ^ k :=
  Nat.length_toDigits_le_iff (by omega) hk

/-- A smaller number is never wider. -/
theorem length_natural_mono {m n : Nat} (h : m ≤ n) :
    (natural m).length ≤ (natural n).length := by
  rw [length_natural_le_iff (length_natural_pos n)]
  have hn : n < 10 ^ (natural n).length :=
    (length_natural_le_iff (length_natural_pos n)).mp (Nat.le_refl _)
  omega

/-- An integer is too long to be written iff it is not below the power of ten of the limit. -/
theorem isLong_iff {n : Int} : isLong n = true ↔ 10 ^ maxDigits ≤ n.natAbs := by
  unfold isLong
  rw [decide_eq_true_iff, ← Nat.not_le, length_natural_le_iff (by decide), Nat.not_lt]

/-- A number between two neighbouring powers of ten has the width of the lower one's text. -/
theorem length_natural_eq {n k : Nat} (low : 10 ^ k ≤ n) (high : n < 10 ^ (k + 1)) :
    (natural n).length = k + 1 := by
  have hle : (natural n).length ≤ k + 1 := (length_natural_le_iff (Nat.succ_pos k)).mpr high
  have hlt : k < (natural n).length := by
    cases k with
    | zero => exact length_natural_pos n
    | succ k =>
      have hnot : ¬ (natural n).length ≤ k + 1 := by
        rw [length_natural_le_iff (Nat.succ_pos k)]
        omega
      omega
  omega

theorem isDigit_of_mem_natural {n : Nat} {c : Char} (h : c ∈ natural n) : c.isDigit = true :=
  Nat.isDigit_of_mem_toDigits (by omega) (Nat.le_refl 10) h

theorem natural_inj {m n : Nat} (h : natural m = natural n) : m = n := by
  rw [← naturalValue_natural m, h, naturalValue_natural]

/-! ## Padding -/

theorem length_paddedNatural_of_lt {width n : Nat} (hw : 0 < width) (h : n < 10 ^ width) :
    (paddedNatural width n).length = width := by
  rw [length_paddedNatural]
  have := (length_natural_le_iff hw).mpr h
  omega

theorem isDigit_of_mem_paddedNatural {width n : Nat} {c : Char}
    (h : c ∈ paddedNatural width n) : c.isDigit = true := by
  unfold paddedNatural List.leftpad at h
  rcases List.mem_append.mp h with hz | hn
  · rw [List.eq_of_mem_replicate hz]
    decide
  · exact isDigit_of_mem_natural hn

theorem paddedNatural_inj {width m n : Nat} (h : paddedNatural width m = paddedNatural width n) :
    m = n := by
  rw [← naturalValue_padded width m, h, naturalValue_padded]

theorem padded_of_nonneg (width : Nat) {n : Int} (h : 0 ≤ n) :
    padded width n = paddedNatural width n.toNat := by
  cases n with
  | ofNat n => rfl
  | negSucc n => omega

/-- The sign is the first character of a padded negative number. -/
theorem minus_mem_padded (width : Nat) {n : Int} (h : n < 0) : '-' ∈ padded width n := by
  cases n with
  | ofNat n => exact absurd h (by simp)
  | negSucc n => exact List.mem_cons_self

/-- A padded integer is all digits iff it is not negative. -/
theorem all_isDigit_padded_iff (width : Nat) (n : Int) :
    (padded width n).all Char.isDigit = true ↔ 0 ≤ n := by
  rw [List.all_eq_true]
  constructor
  · intro hall
    by_cases hn : 0 ≤ n
    · exact hn
    · exact absurd (hall '-' (minus_mem_padded width (by omega))) (by decide)
  · intro hn c hc
    rw [padded_of_nonneg width hn] at hc
    exact isDigit_of_mem_paddedNatural hc

/-! ## Classes of digits -/

/-- Every ASCII digit is a decimal, and so a digit. -/
theorem isDigit_of_ascii {c : Char} (h : c.isDigit = true) : isDigit c = true := by
  apply isDigit_of_isDecimal
  rw [isDecimal, decimalValue?_ascii h]
  rfl

end Sequencer.Text
