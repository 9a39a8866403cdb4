import Mathlib.Data.Char
import Mathlib.Data.List.Lex
import Sequencer.Proofs.Decimal

/-!
# Numerals of a fixed width

A row of so many ASCII digits is the zero-padded text of its value, and of no other number
(`IsNumeral.eq_paddedNatural`, `naturalValue_padded`). Rows of one width are ordered as texts the
way their values are (`IsNumeral.lt_iff`), and texts put together from parts of fixed widths are
ordered by the first part that differs (`append_lt_append_iff`).
-/

namespace Sequencer.Text

/-! ## Rows of digits -/

/-- A row of so many ASCII digits. -/
structure IsNumeral (width : Nat) (digits : List Char) : Prop where
  length_eq : digits.length = width
  isDigit : ∀ c ∈ digits, c.isDigit = true

theorem isDigit_iff_toNat {c : Char} : c.isDigit = true ↔ 48 ≤ c.toNat ∧ c.toNat ≤ 57 := by
  simp [Char.isDigit, UInt32.le_iff_toNat_le]

theorem char_lt_iff_toNat {c d : Char} : c < d ↔ c.toNat < d.toNat := by
  rw [Char.lt_def, UInt32.lt_iff_toNat_lt]
  rfl

theorem naturalValue_cons (c : Char) (digits : List Char) :
    naturalValue (c :: digits) = (c.toNat - 48) * 10 ^ digits.length + naturalValue digits := by
  unfold naturalValue
  rw [Nat.ofDigitChars_cons, Nat.ofDigitChars_eq_ofDigitChars_zero, Nat.mul_comm, Nat.mul_zero,
    Nat.zero_add]
  rfl

/-- The first digit decides, and only if it is the same the rest does. -/
theorem mul_add_lt_mul_add_iff {a b r s p : Nat} (hr : r < p) (hs : s < p) :
    a * p + r < b * p + s ↔ a < b ∨ a = b ∧ r < s := by
  rcases Nat.lt_trichotomy a b with hlt | rfl | hgt
  · have hmul : (a + 1) * p ≤ b * p := Nat.mul_le_mul_right p hlt
    rw [Nat.succ_mul] at hmul
    omega
  · omega
  · have hmul : (b + 1) * p ≤ a * p := Nat.mul_le_mul_right p hgt
    rw [Nat.succ_mul] at hmul
    omega

namespace IsNumeral

variable {width : Nat} {digits digits' : List Char}

theorem tail {c : Char} (h : IsNumeral (width + 1) (c :: digits)) : IsNumeral width digits :=
  ⟨Nat.succ.inj h.length_eq, fun d hd => h.isDigit d (List.mem_cons_of_mem c hd)⟩

theorem append {width' : Nat} (h : IsNumeral width digits) (h' : IsNumeral width' digits') :
    IsNumeral (width + width') (digits ++ digits') := by
  refine ⟨by rw [List.length_append, h.length_eq, h'.length_eq], fun c hc => ?_⟩
  rcases List.mem_append.mp hc with hc | hc
  · exact h.isDigit c hc
  · exact h'.isDigit c hc

theorem take {width' : Nat} (h : IsNumeral (width + width') digits) :
    IsNumeral width (digits.take width) :=
  ⟨by rw [List.length_take, h.length_eq]; omega, fun c hc => h.isDigit c (List.mem_of_mem_take hc)⟩

theorem drop {width' : Nat} (h : IsNumeral (width + width') digits) :
    IsNumeral width' (digits.drop width) :=
  ⟨by rw [List.length_drop, h.length_eq]; omega, fun c hc => h.isDigit c (List.mem_of_mem_drop hc)⟩

theorem value_lt (h : IsNumeral width digits) : naturalValue digits < 10 ^ width := by
  induction digits generalizing width with
  | nil =>
    rw [← h.length_eq]
    decide
  | cons c digits ih =>
    obtain ⟨width, rfl⟩ : ∃ w, width = w + 1 := ⟨digits.length, h.length_eq.symm⟩
    have hc := isDigit_iff_toNat.mp (h.isDigit c List.mem_cons_self)
    have hrest := ih h.tail
    have hmul : (c.toNat - 48) * 10 ^ width ≤ 9 * 10 ^ width := Nat.mul_le_mul_right _ (by omega)
    rw [naturalValue_cons, h.tail.length_eq, Nat.pow_succ]
    omega

/-- Numerals of one width are ordered as texts the way they are as numbers. -/
theorem lt_iff (h : IsNumeral width digits) (h' : IsNumeral width digits') :
    digits < digits' ↔ naturalValue digits < naturalValue digits' := by
  induction digits generalizing width digits' with
  | nil =>
    have hnil : digits' = [] := List.length_eq_zero_iff.mp (h'.length_eq.trans h.length_eq.symm)
    subst hnil
    simp
  | cons c digits ih =>
    obtain ⟨width, rfl⟩ : ∃ w, width = w + 1 := ⟨digits.length, h.length_eq.symm⟩
    cases digits' with
    | nil => exact absurd h'.length_eq (by simp)
    | cons c' digits' =>
      have hc := isDigit_iff_toNat.mp (h.isDigit c List.mem_cons_self)
      have hc' := isDigit_iff_toNat.mp (h'.isDigit c' List.mem_cons_self)
      have hval : c = c' ↔ c.toNat - 48 = c'.toNat - 48 := by
        rw [← Char.toNat_inj]
        omega
      rw [List.cons_lt_cons_iff, ih h.tail h'.tail, naturalValue_cons, naturalValue_cons,
        h.tail.length_eq, h'.tail.length_eq,
        mul_add_lt_mul_add_iff h.tail.value_lt h'.tail.value_lt, char_lt_iff_toNat, hval]
      omega

theorem eq_of_value_eq (h : IsNumeral width digits) (h' : IsNumeral width digits')
    (hval : naturalValue digits = naturalValue digits') : digits = digits' := by
  rcases lt_trichotomy digits digits' with hlt | heq | hgt
  · have := (h.lt_iff h').mp hlt
    omega
  · exact heq
  · have := (h'.lt_iff h).mp hgt
    omega

end IsNumeral

/-! ## Padded texts -/

section

variable {width m n : Nat}

theorem isNumeral_paddedNatural (hw : 0 < width) (h : n < 10 ^ width) :
    IsNumeral width (paddedNatural width n) :=
  ⟨length_paddedNatural_of_lt hw h, fun _ => isDigit_of_mem_paddedNatural⟩

/-- A numeral is the padded text of its value. -/
theorem IsNumeral.eq_paddedNatural {digits : List Char} (hw : 0 < width)
    (h : IsNumeral width digits) : digits = paddedNatural width (naturalValue digits) :=
  h.eq_of_value_eq (isNumeral_paddedNatural hw h.value_lt) (naturalValue_padded _ _).symm

theorem paddedNatural_lt_iff (hw : 0 < width) (hm : m < 10 ^ width) (hn : n < 10 ^ width) :
    paddedNatural width m < paddedNatural width n ↔ m < n := by
  rw [(isNumeral_paddedNatural hw hm).lt_iff (isNumeral_paddedNatural hw hn),
    naturalValue_padded, naturalValue_padded]

/-- A number of exactly the width needs no padding. -/
theorem natural_eq_paddedNatural (h : (natural n).length = width) :
    natural n = paddedNatural width n := by
  rw [paddedNatural, List.leftpad, h, Nat.sub_self, List.replicate_zero, List.nil_append]

end

/-! ## Texts in parts -/

/-- The first part decides, and only if it is the same the rest does. -/
theorem append_lt_append_iff {front front' back back' : List Char}
    (h : front.length = front'.length) :
    front ++ back < front' ++ back' ↔ front < front' ∨ front = front' ∧ back < back' := by
  induction front generalizing front' with
  | nil =>
    have hnil : front' = [] := List.length_eq_zero_iff.mp h.symm
    subst hnil
    simp
  | cons c front ih =>
    cases front' with
    | nil => exact absurd h (by simp)
    | cons c' front' =>
      rw [List.cons_append, List.cons_append, List.cons_lt_cons_iff, List.cons_lt_cons_iff,
        ih (Nat.succ.inj h), List.cons.injEq]
      constructor
      · rintro (hlt | ⟨rfl, hlt | ⟨rfl, hlt⟩⟩)
        · exact .inl (.inl hlt)
        · exact .inl (.inr ⟨rfl, hlt⟩)
        · exact .inr ⟨⟨rfl, rfl⟩, hlt⟩
      · rintro ((hlt | ⟨rfl, hlt⟩) | ⟨⟨rfl, rfl⟩, hlt⟩)
        · exact .inl hlt
        · exact .inr ⟨rfl, .inl hlt⟩
        · exact .inr ⟨rfl, .inr ⟨rfl, hlt⟩⟩

end Sequencer.Text
