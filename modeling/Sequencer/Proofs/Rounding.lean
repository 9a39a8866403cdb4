import Mathlib.Algebra.Ring.Nat
import Sequencer.Binary64.Reading

/-!
# Rounding keeps the order

A number of units is rounded to the nearest multiple of a power of two that depends on how large
it is. On one such grid rounding is monotone (`roundDiv_mono`), and the power of two that a larger
number reaches lies between the two roundings if the grids differ (`roundUnits_mono`). What was
rounded once is left alone by rounding again (`roundUnits_idem`), so what comes out of an operation
is a double (`IsDouble`), and an integer on one side of a double is rounded to the same side.
-/

namespace Sequencer.Binary64

/-! ## Quotients -/

theorem roundDiv_le_succ (m d : Nat) : roundDiv m d ≤ m / d + 1 := by
  unfold roundDiv
  split <;> omega

theorem div_le_roundDiv (m d : Nat) : m / d ≤ roundDiv m d := by
  unfold roundDiv
  split <;> omega

theorem roundDiv_mono {m n d : Nat} (h : m ≤ n) : roundDiv m d ≤ roundDiv n d := by
  have hq : m / d ≤ n / d := Nat.div_le_div_right h
  by_cases heq : m / d = n / d
  · -- The same floor: the remainders are in order, and what rounds up stays rounded up.
    have hm := Nat.div_add_mod m d
    have hn := Nat.div_add_mod n d
    rw [heq] at hm
    have hr : m % d ≤ n % d := by omega
    unfold roundDiv
    rw [heq]
    split
    · rename_i hup
      rw [if_pos (by omega)]
    · split <;> omega
  · have hlow := roundDiv_le_succ m d
    have hhigh := div_le_roundDiv n d
    omega

theorem roundDiv_le_of_le_mul {m k d : Nat} (hd : 0 < d) (h : m ≤ k * d) : roundDiv m d ≤ k := by
  have := roundDiv_mono (d := d) h
  rwa [roundDiv_mul k d hd] at this

theorem le_roundDiv_of_mul_le {n k d : Nat} (hd : 0 < d) (h : k * d ≤ n) : k ≤ roundDiv n d := by
  have := roundDiv_mono (d := d) h
  rwa [roundDiv_mul k d hd] at this

/-! ## Numbers of units -/

theorem pow_pos_two (e : Nat) : 0 < Nat.pow 2 e := Nat.pow_pos (by decide)

theorem pow_two_split {a b : Nat} (h : b ≤ a) : Nat.pow 2 (a - b) * Nat.pow 2 b = Nat.pow 2 a := by
  show 2 ^ (a - b) * 2 ^ b = 2 ^ a
  rw [← Nat.pow_add, Nat.sub_add_cancel h]

/-- Below a power of two that the grid contains, rounding stays below it. -/
theorem roundUnits_le_pow {num den b : Nat} (hden : 0 < den) (hb : lastBit (num / den) ≤ b)
    (h : num ≤ Nat.pow 2 b * den) : roundUnits num den ≤ Nat.pow 2 b := by
  unfold roundUnits
  rw [← pow_two_split hb]
  apply Nat.mul_le_mul_right
  apply roundDiv_le_of_le_mul (Nat.mul_pos hden (pow_pos_two _))
  rw [Nat.mul_comm den, ← Nat.mul_assoc, pow_two_split hb]
  exact h

/-- Above a power of two that the grid contains, rounding stays above it. -/
theorem pow_le_roundUnits {num den b : Nat} (hden : 0 < den) (hb : lastBit (num / den) ≤ b)
    (h : Nat.pow 2 b * den ≤ num) : Nat.pow 2 b ≤ roundUnits num den := by
  unfold roundUnits
  rw [← pow_two_split hb]
  apply Nat.mul_le_mul_right
  apply le_roundDiv_of_mul_le (Nat.mul_pos hden (pow_pos_two _))
  rw [Nat.mul_comm den, ← Nat.mul_assoc, pow_two_split hb]
  exact h

theorem roundUnits_mono {m n den : Nat} (hden : 0 < den) (h : m ≤ n) :
    roundUnits m den ≤ roundUnits n den := by
  have hq : m / den ≤ n / den := Nat.div_le_div_right h
  by_cases heq : lastBit (m / den) = lastBit (n / den)
  · unfold roundUnits
    rw [heq]
    exact Nat.mul_le_mul_right _ (roundDiv_mono h)
  · -- The grids differ, so the power of two at the head of the larger one lies between.
    have hn : n / den ≠ 0 := by
      intro hzero
      rw [hzero] at hq heq
      exact heq (by rw [Nat.le_zero.mp hq])
    have hlog : (m / den).log2 < (n / den).log2 := by
      have hle : (m / den).log2 ≤ (n / den).log2 := by
        by_cases hm : m / den = 0
        · simp [hm]
        · exact (Nat.le_log2 hn).mpr (Nat.le_trans (Nat.log2_self_le hm) hq)
      unfold lastBit at heq
      omega
    have hhead : Nat.pow 2 (n / den).log2 ≤ n / den := Nat.log2_self_le hn
    have hbelow : m / den < Nat.pow 2 (n / den).log2 := by
      by_cases hm : m / den = 0
      · rw [hm]
        exact pow_pos_two _
      · exact (Nat.log2_lt hm).mp hlog
    calc roundUnits m den
        ≤ Nat.pow 2 (n / den).log2 := by
          apply roundUnits_le_pow hden
          · unfold lastBit
            omega
          · exact Nat.le_of_lt ((Nat.div_lt_iff_lt_mul hden).mp hbelow)
      _ ≤ roundUnits n den := by
          apply pow_le_roundUnits hden
          · unfold lastBit
            omega
          · exact (Nat.le_div_iff_mul_le hden).mp hhead

/-- A multiple of a power of two with at most fifty-three bits is its own rounding. -/
theorem roundUnits_mul_pow {k e : Nat} (hk : k < Nat.pow 2 53) :
    roundUnits (k * Nat.pow 2 e) 1 = k * Nat.pow 2 e := by
  have hgrid : lastBit (k * Nat.pow 2 e) ≤ e := by
    unfold lastBit
    by_cases hzero : k * Nat.pow 2 e = 0
    · rw [hzero]
      simp
    · have hlt : k * Nat.pow 2 e < 2 ^ (53 + e) := by
        rw [Nat.pow_add]
        exact Nat.mul_lt_mul_of_pos_right hk (pow_pos_two e)
      have := (Nat.log2_lt hzero).mpr hlt
      omega
  have hmul : k * Nat.pow 2 e =
      k * Nat.pow 2 (e - lastBit (k * Nat.pow 2 e)) * Nat.pow 2 (lastBit (k * Nat.pow 2 e)) := by
    rw [Nat.mul_assoc, pow_two_split hgrid]
  unfold roundUnits
  rw [Nat.div_one, Nat.one_mul]
  generalize lastBit (k * Nat.pow 2 e) = b at hmul
  rw [hmul, roundDiv_mul _ _ (pow_pos_two b)]

/-- With all fifty-three bits carried away, one bit is left on the next grid. -/
theorem carry (e : Nat) : Nat.pow 2 53 * Nat.pow 2 e = Nat.pow 2 52 * Nat.pow 2 (e + 1) := by
  show 2 ^ 53 * 2 ^ e = 2 ^ 52 * 2 ^ (e + 1)
  rw [Nat.pow_succ 2 e]
  omega

theorem roundUnits_mul_pow_of_le {k e : Nat} (hk : k ≤ Nat.pow 2 53) :
    roundUnits (k * Nat.pow 2 e) 1 = k * Nat.pow 2 e := by
  rcases Nat.lt_or_eq_of_le hk with hlt | rfl
  · exact roundUnits_mul_pow hlt
  · rw [carry]
    exact roundUnits_mul_pow (by decide)

theorem lt_pow_lastBit (units : Nat) : units < 2 ^ (53 + lastBit units) := by
  refine Nat.lt_of_lt_of_le (Nat.lt_log2_self (n := units)) (Nat.pow_le_pow_right (by decide) ?_)
  unfold lastBit
  omega

theorem roundUnits_idem {num den : Nat} (hden : 0 < den) :
    roundUnits (roundUnits num den) 1 = roundUnits num den := by
  have hbits : roundDiv num (den * Nat.pow 2 (lastBit (num / den))) ≤ Nat.pow 2 53 := by
    apply roundDiv_le_of_le_mul (Nat.mul_pos hden (pow_pos_two _))
    have hmul := (Nat.div_lt_iff_lt_mul hden).mp (lt_pow_lastBit (num / den))
    rw [Nat.pow_add, Nat.mul_assoc, Nat.mul_comm _ den] at hmul
    exact Nat.le_of_lt hmul
  exact roundUnits_mul_pow_of_le hbits

/-! ## Doubles -/

/-- The number of units, if it is finite, is one that the format holds. -/
def IsDouble (x : Binary64) : Prop :=
  ∀ negative units, x = .finite negative units → roundUnits units 1 = units ∧ units < unitsEnd

@[simp] theorem isDouble_infinite (negative : Bool) : (infinite negative).IsDouble := by
  intro _ _ h
  cases h

@[simp] theorem isDouble_nan : nan.IsDouble := by
  intro _ _ h
  cases h

theorem unitsInOne_pos : 0 < unitsInOne := by decide +kernel

theorem unitsEnd_pos : 0 < unitsEnd := by decide +kernel

@[simp] theorem isDouble_zero (negative : Bool) : (finite negative 0).IsDouble := by
  intro _ _ h
  cases h
  exact ⟨roundUnits_one_of_lt (pow_pos_two 53), unitsEnd_pos⟩

theorem isDouble_ofUnits (negative : Bool) (num : Nat) {den : Nat} (hden : 0 < den) :
    (ofUnits negative num den).IsDouble := by
  unfold ofUnits
  split
  · rename_i hlt
    intro _ _ h
    cases h
    exact ⟨roundUnits_idem hden, hlt⟩
  · simp

theorem IsDouble.neg {x : Binary64} (h : x.IsDouble) : x.neg.IsDouble := by
  cases x with
  | finite negative units =>
    intro _ _ heq
    cases heq
    exact h _ _ rfl
  | infinite negative => simp [Binary64.neg]
  | nan => simp [Binary64.neg]

theorem isDouble_add (x y : Binary64) : (x.add y).IsDouble := by
  unfold add
  split
  · simp
  · simp
  · split <;> simp
  · simp
  · simp
  · dsimp only
    split
    · simp
    · exact isDouble_ofUnits _ _ Nat.one_pos

theorem isDouble_ofDecimal (negative : Bool) (digits : Nat) (exponent : Int) :
    (ofDecimal negative digits exponent).IsDouble := by
  unfold ofDecimal ofRatio
  dsimp only
  split
  · simp
  · split
    · simp
    · split
      · exact isDouble_ofUnits _ _ Nat.one_pos
      · exact isDouble_ofUnits _ _ (Nat.pow_pos (by decide))

theorem isDouble_of_read? {text : String} {x : Binary64} (h : read? text = some x) :
    x.IsDouble := by
  unfold read? readNumeral? at h
  dsimp only at h
  split at h
  · cases h
    simp
  · split at h
    · cases h
      simp
    · simp only [Option.bind_eq_bind, Option.bind_eq_some_iff] at h
      obtain ⟨whole, -, fraction, -, h⟩ := h
      split at h
      · cases h
      · obtain ⟨exponent, -, h⟩ := Option.bind_eq_some_iff.mp h
        cases h
        exact isDouble_ofDecimal _ _ _

/-! ## Integers beside doubles -/

/-- A signed number of units, rounded. -/
def roundScaled (z : Int) : Int :=
  if z < 0 then -(roundUnits z.natAbs 1 : Int) else roundUnits z.natAbs 1

theorem roundScaled_mono {y z : Int} (h : y ≤ z) : roundScaled y ≤ roundScaled z := by
  unfold roundScaled
  split
  · split
    · have := roundUnits_mono Nat.one_pos (by omega : z.natAbs ≤ y.natAbs)
      omega
    · omega
  · rw [if_neg (by omega)]
    have := roundUnits_mono Nat.one_pos (by omega : y.natAbs ≤ z.natAbs)
    omega

theorem roundScaled_scaled {x : Binary64} (h : x.IsDouble) : roundScaled x.scaled = x.scaled := by
  have hzero : roundUnits 0 1 = 0 := roundUnits_one_of_lt (by decide)
  cases x with
  | infinite negative => simp [scaled, roundScaled, hzero]
  | nan => simp [scaled, roundScaled, hzero]
  | finite negative units =>
    have hunits := (h _ _ rfl).1
    unfold roundScaled scaled
    cases negative with
    | false =>
      simp only [Bool.false_eq_true, ↓reduceIte, Int.natAbs_natCast, hunits]
      omega
    | true =>
      simp only [↓reduceIte, Int.natAbs_neg, Int.natAbs_natCast, hunits]
      omega

theorem roundScaled_mul (n : Int) {unit : Nat} (hunit : 0 < unit) :
    roundScaled (n * unit) =
      if n < 0 then -(roundUnits (n.natAbs * unit) 1 : Int)
      else roundUnits (n.natAbs * unit) 1 := by
  have habs : (n * unit : Int).natAbs = n.natAbs * unit := by
    rw [Int.natAbs_mul, Int.natAbs_natCast]
  have hsign : n * unit < 0 ↔ n < 0 := by
    constructor
    · intro hneg
      by_contra hn
      have := Int.mul_nonneg (by omega : 0 ≤ n) (Int.natCast_nonneg unit)
      omega
    · intro hn
      exact Int.mul_neg_of_neg_of_pos hn (by omega)
  unfold roundScaled
  rw [habs]
  by_cases hn : n < 0
  · rw [if_pos hn, if_pos (hsign.mpr hn)]
  · rw [if_neg hn, if_neg (mt hsign.mp hn)]

theorem eq_finite_of_ofUnits {negative : Bool} {num den : Nat}
    (h : (ofUnits negative num den).isFinite = true) :
    ofUnits negative num den = .finite negative (roundUnits num den) := by
  unfold ofUnits at h ⊢
  split
  · rfl
  · rename_i hlt
    rw [if_neg hlt] at h
    cases h

theorem finite?_eq_some_iff {x y : Binary64} : finite? x = some y ↔ x.isFinite = true ∧ x = y := by
  simp [finite?]

/-- An integer becomes a finite double, that of its units rounded. -/
theorem ofInt?_eq_some {n : Int} {x : Binary64} (h : ofInt? n = some x) :
    x.isFinite = true ∧ x.scaled = roundScaled (n * unitsInOne) ∧ x.IsDouble := by
  obtain ⟨hfinite, heq⟩ := finite?_eq_some_iff.mp h
  have hunits : ofRatio (n < 0) n.natAbs 1 = _ := eq_finite_of_ofUnits hfinite
  have hdouble : (ofRatio (n < 0) n.natAbs 1).IsDouble := isDouble_ofUnits _ _ Nat.one_pos
  rw [heq] at hfinite hdouble
  refine ⟨hfinite, ?_, hdouble⟩
  rw [← heq, hunits, roundScaled_mul n unitsInOne_pos]
  simp [scaled]

/-- Whether one double is at most another; false if either is not a number. -/
def lessEq : Binary64 → Binary64 → Bool
  | .nan, _ => false
  | _, .nan => false
  | .infinite a, .infinite b => a || !b
  | .infinite a, .finite .. => a
  | .finite .., .infinite b => !b
  | .finite a m, .finite b n => (finite a m).scaled ≤ (finite b n).scaled

theorem lessEq_iff {x y : Binary64} :
    x.lessEq y = true ↔ x.isNumber = true ∧ y.isNumber = true ∧ y.less x = false := by
  cases x <;> cases y <;> simp [lessEq, isNumber, less]
  rename_i a b
  cases a <;> cases b <;> simp

theorem not_intLess_iff {n : Int} {x : Binary64} (hx : x.isNumber = true) :
    intLess n x = false ↔ x = .infinite true ∨ x.isFinite = true ∧ x.scaled ≤ n * unitsInOne := by
  cases x with
  | finite negative units =>
    rw [intLess, decide_eq_false_iff_not, Int.not_lt]
    simp only [reduceCtorEq, isFinite, false_or, true_and]
  | infinite negative =>
    constructor
    · intro h
      cases negative with
      | true => exact .inl rfl
      | false => cases h
    · rintro (h | ⟨h, -⟩)
      · cases h
        rfl
      · cases h
  | nan => cases hx

/-- The double nearest to an integer that is not less than a double is not less than it either. -/
theorem lessEq_ofInt? {n : Int} {x y : Binary64} (hdouble : x.IsDouble) (hx : x.isNumber = true)
    (h : intLess n x = false) (hy : ofInt? n = some y) : x.lessEq y = true := by
  obtain ⟨hfinite, hscaled, -⟩ := ofInt?_eq_some hy
  cases y with
  | infinite b => cases hfinite
  | nan => cases hfinite
  | finite b n =>
    rcases (not_intLess_iff hx).mp h with rfl | ⟨hfinite', hle⟩
    · rfl
    · have hmono := roundScaled_mono hle
      rw [roundScaled_scaled hdouble, ← hscaled] at hmono
      cases x with
      | finite a m => simpa [lessEq] using hmono
      | infinite a => cases hfinite'
      | nan => cases hfinite'

end Sequencer.Binary64
