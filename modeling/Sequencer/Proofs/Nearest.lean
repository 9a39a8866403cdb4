import Mathlib.Algebra.Order.Field.Basic
import Mathlib.Algebra.Order.Field.Rat
import Mathlib.Data.Int.Cast.Lemmas
import Mathlib.Order.WithBot
import Sequencer.Number
import Sequencer.Proofs.Rounding

/-!
# The double nearest to an integer

The conversion of an integer is computed by rounding its units on a grid. Here it is characterized
by what it comes to: no finite double is closer, and of two that are as close it is the one whose
last bit is zero (`NearestTo`, `ofInt?_eq_some_iff_nearestTo`). Between the two multiples of the
grid that enclose a number of units there is no double (`Held.le_or_le`), so nothing but these two
comes into question. In the same way the comparison of numbers is the order of their exact values
(`Number.less_iff`).
-/

namespace Sequencer

namespace Binary64

/-! ## Numbers of units -/

/-- The units of a double of unbounded range. -/
def Held (units : Nat) : Prop := roundUnits units 1 = units

/-- The step of the grid that a number of units is rounded on. -/
def spacing (units : Nat) : Nat := Nat.pow 2 (lastBit units)

/-- The number of whole steps of its grid in a number of units. -/
def steps (units : Nat) : Nat := units / spacing units

/-- What is left of a number of units above its grid. -/
def rest (units : Nat) : Nat := units % spacing units

/-- Of the fifty-three bits the last is zero. -/
def EvenBit (units : Nat) : Prop := steps units % 2 = 0

/-- The number is halfway between two multiples of its grid. -/
def Tie (units : Nat) : Prop := 2 * rest units = spacing units

theorem spacing_pos (units : Nat) : 0 < spacing units := pow_pos_two _

theorem steps_mul_add_rest (units : Nat) : steps units * spacing units + rest units = units :=
  Nat.div_add_mod' units (spacing units)

theorem rest_lt (units : Nat) : rest units < spacing units := Nat.mod_lt units (spacing_pos units)

theorem steps_lt (units : Nat) : steps units < Nat.pow 2 53 := by
  apply (Nat.div_lt_iff_lt_mul (spacing_pos units)).mpr
  have hlt := lt_pow_lastBit units
  rwa [Nat.pow_add] at hlt

/-- On a grid that is not the finest, all fifty-three bits are used. -/
theorem le_steps {units : Nat} (h : lastBit units ≠ 0) : Nat.pow 2 52 ≤ steps units := by
  have hunits : units ≠ 0 := by
    rintro rfl
    exact h rfl
  apply (Nat.le_div_iff_mul_le (spacing_pos units)).mpr
  show 2 ^ 52 * 2 ^ lastBit units ≤ units
  rw [← Nat.pow_add, ← Nat.le_log2 hunits]
  unfold lastBit at h ⊢
  omega

/-- A number of units is rounded down to its grid or up to it, whichever is less far, and on a tie
to the even multiple. -/
theorem roundUnits_cases (m : Nat) :
    (roundUnits m 1 = steps m * spacing m ∧
      (2 * rest m < spacing m ∨ Tie m ∧ steps m % 2 = 0)) ∨
    (roundUnits m 1 = (steps m + 1) * spacing m ∧
      (spacing m < 2 * rest m ∨ Tie m ∧ steps m % 2 = 1)) := by
  have hround : roundUnits m 1 = roundDiv m (spacing m) * spacing m := by
    rw [roundUnits, Nat.div_one, Nat.one_mul]
    rfl
  rw [hround]
  unfold roundDiv Tie rest steps
  split
  · right
    exact ⟨rfl, by omega⟩
  · left
    exact ⟨rfl, by omega⟩

theorem Held.dvd {k : Nat} (h : Held k) : spacing k ∣ k := by
  refine ⟨roundDiv k (spacing k), ?_⟩
  have hround : roundDiv k (1 * spacing (k / 1)) * spacing (k / 1) = k := h
  rw [Nat.one_mul, Nat.div_one] at hround
  rw [Nat.mul_comm]
  exact hround.symm

/-- No double lies between two neighbours on the grid of a number of units that lies there too. -/
theorem Held.le_or_le {k : Nat} (h : Held k) (m : Nat) :
    k ≤ steps m * spacing m ∨ (steps m + 1) * spacing m ≤ k := by
  by_contra hbetween
  obtain ⟨hlow, hhigh⟩ := not_or.mp hbetween
  have hbits : lastBit m ≤ lastBit k := by
    by_cases hzero : lastBit m = 0
    · omega
    · have hk : k ≠ 0 := by omega
      have hhead : Nat.pow 2 52 * spacing m ≤ k := by
        have := Nat.mul_le_mul_right (spacing m) (le_steps hzero)
        omega
      have hlog : 52 + lastBit m ≤ k.log2 := by
        rw [Nat.le_log2 hk, Nat.pow_add]
        exact hhead
      unfold lastBit at hlog ⊢
      omega
  obtain ⟨j, hj⟩ : spacing m ∣ k := Nat.dvd_trans (Nat.pow_dvd_pow 2 hbits) h.dvd
  rw [hj, Nat.mul_comm (spacing m)] at hlow hhigh
  have hj : steps m < j := Nat.lt_of_mul_lt_mul_right (Nat.not_le.mp hlow)
  have hj' : j < steps m + 1 := Nat.lt_of_mul_lt_mul_right (Nat.not_le.mp hhigh)
  omega

theorem evenBit_mul_pow_of_lt {k e : Nat} (hk : Nat.pow 2 52 ≤ k) (hk' : k < Nat.pow 2 53) :
    EvenBit (k * Nat.pow 2 e) ↔ k % 2 = 0 := by
  have hzero : k ≠ 0 := (Nat.lt_of_lt_of_le (pow_pos_two 52) hk).ne'
  have hne : k * Nat.pow 2 e ≠ 0 := Nat.mul_ne_zero hzero (pow_pos_two e).ne'
  have hbit : lastBit (k * Nat.pow 2 e) = e := by
    have hle : 52 + e ≤ (k * Nat.pow 2 e).log2 := by
      rw [Nat.le_log2 hne, Nat.pow_add]
      exact Nat.mul_le_mul_right _ hk
    have hlt : (k * Nat.pow 2 e).log2 < 53 + e := by
      rw [Nat.log2_lt hne, Nat.pow_add]
      exact Nat.mul_lt_mul_of_pos_right hk' (pow_pos_two e)
    unfold lastBit
    omega
  unfold EvenBit steps spacing
  rw [hbit, Nat.mul_div_cancel _ (pow_pos_two e)]

theorem evenBit_mul_pow {k e : Nat} (hk : Nat.pow 2 52 ≤ k) (hk' : k ≤ Nat.pow 2 53) :
    EvenBit (k * Nat.pow 2 e) ↔ k % 2 = 0 := by
  rcases Nat.lt_or_eq_of_le hk' with hlt | rfl
  · exact evenBit_mul_pow_of_lt hk hlt
  · rw [carry, evenBit_mul_pow_of_lt (Nat.le_refl _) (by decide)]

/-- Between two neighbours on a grid that are equally far, the last bit decides. -/
theorem evenBit_iff_of_tie {m : Nat} (h : Tie m) :
    (EvenBit (steps m * spacing m) ↔ steps m % 2 = 0) ∧
      (EvenBit ((steps m + 1) * spacing m) ↔ steps m % 2 = 1) := by
  -- The finest grid has no halves.
  have hbit : lastBit m ≠ 0 := by
    intro hzero
    have hone : spacing m = 1 := by
      unfold spacing
      rw [hzero]
    unfold Tie at h
    omega
  have hlow := le_steps hbit
  have hhigh := steps_lt m
  constructor
  · exact evenBit_mul_pow hlow (Nat.le_of_lt hhigh)
  · refine (evenBit_mul_pow (Nat.le_succ_of_le hlow) hhigh).trans ?_
    omega

/-- The distance of two numbers of units. -/
def distance (k m : Nat) : Nat := (k - m : Int).natAbs

/-- Rounding goes to a double that no other is closer than; another one that is as close has an
odd last bit, and so the rounding has an even one. -/
theorem roundUnits_nearest {k : Nat} (h : Held k) (m : Nat) :
    distance (roundUnits m 1) m ≤ distance k m ∧
      (distance k m = distance (roundUnits m 1) m → k ≠ roundUnits m 1 →
        EvenBit (roundUnits m 1) ∧ ¬ EvenBit k) := by
  have hsplit := h.le_or_le m
  have hfloor := steps_mul_add_rest m
  have hrest := rest_lt m
  have hceiling : (steps m + 1) * spacing m = steps m * spacing m + spacing m :=
    Nat.succ_mul _ _
  have hcases := roundUnits_cases m
  unfold Tie at hcases
  unfold distance
  rcases hcases with ⟨hround, hnear⟩ | ⟨hround, hnear⟩
  · refine ⟨by omega, fun hdistance hne => ?_⟩
    have htie : Tie m := by
      unfold Tie
      omega
    have hk : k = (steps m + 1) * spacing m := by omega
    rw [hround, hk, (evenBit_iff_of_tie htie).1, (evenBit_iff_of_tie htie).2]
    omega
  · refine ⟨by omega, fun hdistance hne => ?_⟩
    have htie : Tie m := by
      unfold Tie
      omega
    have hk : k = steps m * spacing m := by omega
    rw [hround, hk, (evenBit_iff_of_tie htie).1, (evenBit_iff_of_tie htie).2]
    omega

/-! ## Doubles -/

/-- The value of a finite double; zero for the others. -/
def rational (x : Binary64) : ℚ := x.scaled / unitsInOne

/-- The double nearest to an integer. -/
structure NearestTo (x : Binary64) (n : Int) : Prop where
  /-- It is finite and has the sign of the integer; zero is positive. -/
  signed : ∃ units, x = .finite (n < 0) units
  double : x.IsDouble
  /-- None is closer. -/
  nearest : ∀ y : Binary64, y.isFinite = true → y.IsDouble → |x.rational - n| ≤ |y.rational - n|
  /-- If another one is as close, it is the one that ends in a zero bit. -/
  even : ∀ y : Binary64, y.isFinite = true → y.IsDouble → |y.rational - n| = |x.rational - n| →
    y.rational ≠ x.rational → EvenBit x.scaled.natAbs

/-- The distance of a double from an integer, in units. -/
def unitsApart (x : Binary64) (n : Int) : Nat := (x.scaled - n * unitsInOne).natAbs

theorem unitsInOne_cast_pos : (0 : ℚ) < unitsInOne := Nat.cast_pos.mpr unitsInOne_pos

theorem abs_rational_sub (x : Binary64) (n : Int) :
    |x.rational - n| = (x.unitsApart n : ℚ) / unitsInOne := by
  have hvalue : x.rational - n = ((x.scaled - n * unitsInOne : Int) : ℚ) / unitsInOne := by
    rw [rational, Int.cast_sub, sub_div, Int.cast_mul, Int.cast_natCast,
      mul_div_cancel_right₀ _ unitsInOne_cast_pos.ne']
  rw [hvalue, abs_div, abs_of_pos unitsInOne_cast_pos, unitsApart, Nat.cast_natAbs, Int.cast_abs]

section

variable {n : Int} {x y : Binary64}

theorem abs_rational_sub_le_iff :
    |x.rational - n| ≤ |y.rational - n| ↔ x.unitsApart n ≤ y.unitsApart n := by
  rw [abs_rational_sub, abs_rational_sub, div_le_div_iff_of_pos_right unitsInOne_cast_pos,
    Nat.cast_le]

theorem abs_rational_sub_eq_iff :
    |y.rational - n| = |x.rational - n| ↔ y.unitsApart n = x.unitsApart n := by
  rw [abs_rational_sub, abs_rational_sub, div_left_inj' unitsInOne_cast_pos.ne', Nat.cast_inj]

theorem rational_eq_iff : y.rational = x.rational ↔ y.scaled = x.scaled := by
  rw [rational, rational, div_left_inj' unitsInOne_cast_pos.ne', Int.cast_inj]

theorem mul_unitsInOne_eq (n : Int) :
    n * unitsInOne = if n < 0 then -((n.natAbs * unitsInOne : Nat) : Int)
      else (n.natAbs * unitsInOne : Nat) := by
  rw [Nat.cast_mul, ← neg_mul]
  split
  · rw [show -(n.natAbs : Int) = n by omega]
  · rw [show (n.natAbs : Int) = n by omega]

theorem scaled_finite (negative : Bool) (units : Nat) :
    (finite negative units).scaled = if negative = true then -(units : Int) else units := rfl

/-- On the side of the integer the distance is that of the units. -/
theorem unitsApart_finite (n : Int) (units : Nat) :
    (finite (n < 0) units).unitsApart n = distance units (n.natAbs * unitsInOne) := by
  unfold unitsApart distance
  rw [mul_unitsInOne_eq, scaled_finite]
  by_cases hn : n < 0
  · simp only [hn, decide_true, ↓reduceIte]
    omega
  · simp only [hn, decide_false, Bool.false_eq_true, ↓reduceIte]

/-- On the other side it is at least that. -/
theorem distance_le_unitsApart (x : Binary64) (n : Int) :
    distance x.scaled.natAbs (n.natAbs * unitsInOne) ≤ x.unitsApart n := by
  unfold unitsApart distance
  rw [mul_unitsInOne_eq]
  split <;> omega

/-- A double as far from an integer as the double of the same units and the sign of the integer is
that double, up to the sign of zero. -/
theorem scaled_eq_of_unitsApart {units : Nat} (hunits : x.scaled.natAbs = units)
    (hzero : n = 0 → units = 0) (h : x.unitsApart n = distance units (n.natAbs * unitsInOne)) :
    x.scaled = (finite (n < 0) units).scaled := by
  have hpos : n ≠ 0 → 0 < n.natAbs * unitsInOne := fun hn =>
    Nat.mul_pos (by omega) unitsInOne_pos
  unfold unitsApart distance at h
  rw [mul_unitsInOne_eq] at h
  by_cases hn : n < 0
  · simp only [scaled_finite, hn, decide_true, ↓reduceIte] at h ⊢
    omega
  · simp only [scaled_finite, hn, decide_false, Bool.false_eq_true, ↓reduceIte] at h ⊢
    omega

theorem natAbs_scaled_finite (negative : Bool) (units : Nat) :
    (finite negative units).scaled.natAbs = units := by
  cases negative <;> simp [scaled_finite]

theorem held_of_isDouble (hfinite : y.isFinite = true) (h : y.IsDouble) :
    Held y.scaled.natAbs := by
  cases y with
  | infinite negative => cases hfinite
  | nan => cases hfinite
  | finite negative units =>
    rw [natAbs_scaled_finite]
    exact (h negative units rfl).1

/-- An integer that is not too large becomes the double of its sign and its rounded units. -/
theorem eq_of_ofInt? (h : ofInt? n = some x) :
    x = .finite (n < 0) (roundUnits (n.natAbs * unitsInOne) 1) := by
  obtain ⟨hfinite, heq⟩ := finite?_eq_some_iff.mp h
  rw [← heq]
  exact eq_finite_of_ofUnits hfinite

theorem nearestTo_of_ofInt? (h : ofInt? n = some x) : x.NearestTo n := by
  have hdouble := (ofInt?_eq_some h).2.2
  obtain rfl := eq_of_ofInt? h
  refine ⟨⟨_, rfl⟩, hdouble, fun y hfinite hy => ?_, fun y hfinite hy heq hne => ?_⟩
  · rw [abs_rational_sub_le_iff, unitsApart_finite]
    have hround := (roundUnits_nearest (held_of_isDouble hfinite hy) (n.natAbs * unitsInOne)).1
    exact Nat.le_trans hround (distance_le_unitsApart y n)
  · rw [abs_rational_sub_eq_iff, unitsApart_finite] at heq
    rw [ne_eq, rational_eq_iff] at hne
    rw [natAbs_scaled_finite]
    obtain ⟨hround, htie⟩ := roundUnits_nearest (held_of_isDouble hfinite hy)
      (n.natAbs * unitsInOne)
    have hle := distance_le_unitsApart y n
    by_cases hsame : y.scaled.natAbs = roundUnits (n.natAbs * unitsInOne) 1
    · refine absurd (scaled_eq_of_unitsApart hsame ?_ heq) hne
      rintro rfl
      rw [Int.natAbs_zero, Nat.zero_mul]
      exact roundUnits_one_of_lt (by decide)
    · exact (htie (by omega) hsame).1

/-- Converting an integer that is not too large gives the double nearest to it. -/
theorem ofInt?_eq_some_iff_nearestTo (hfits : ofInt? n ≠ none) :
    ofInt? n = some x ↔ x.NearestTo n := by
  refine ⟨nearestTo_of_ofInt?, fun hx => ?_⟩
  obtain ⟨y, hy⟩ := Option.ne_none_iff_exists'.mp hfits
  have hdouble := (ofInt?_eq_some hy).2.2
  obtain ⟨units, rfl⟩ := hx.signed
  obtain rfl := eq_of_ofInt? hy
  have hheld : Held units := (hx.double _ _ rfl).1
  obtain ⟨hround, htie⟩ := roundUnits_nearest hheld (n.natAbs * unitsInOne)
  have hnearest := hx.nearest _ rfl hdouble
  rw [abs_rational_sub_le_iff, unitsApart_finite, unitsApart_finite] at hnearest
  have heq : distance units (n.natAbs * unitsInOne) =
      distance (roundUnits (n.natAbs * unitsInOne) 1) (n.natAbs * unitsInOne) := by omega
  by_cases hsame : units = roundUnits (n.natAbs * unitsInOne) 1
  · rw [hy, hsame]
  · -- As close and another: the rounding ends in a zero bit, so this one does not.
    have heven := hx.even _ rfl hdouble
    rw [abs_rational_sub_eq_iff, unitsApart_finite, unitsApart_finite, natAbs_scaled_finite,
      ne_eq, rational_eq_iff] at heven
    refine absurd (heven heq.symm fun hscaled => hsame ?_) (htie heq hsame).2
    rw [← natAbs_scaled_finite (n < 0) units, ← hscaled, natAbs_scaled_finite]

end

/-- Halfway between two doubles the one that ends in a zero bit is taken. -/
example : ofInt? (2 ^ 53 + 1) = some (ofRatio false (2 ^ 53) 1) := by decide +kernel

/-! ## Exact comparison -/

theorem rational_zero : zero.rational = 0 := by
  have hscaled : zero.scaled = 0 := rfl
  rw [rational, hscaled, Int.cast_zero, zero_div]

theorem zero_ne_nan : zero ≠ .nan := nofun

theorem rational_lt_iff {x y : Binary64} : x.rational < y.rational ↔ x.scaled < y.scaled := by
  rw [rational, rational, div_lt_div_iff_of_pos_right unitsInOne_cast_pos, Int.cast_lt]

theorem rational_lt_int_iff {x : Binary64} {n : Int} :
    x.rational < n ↔ x.scaled < n * unitsInOne := by
  rw [rational, div_lt_iff₀ unitsInOne_cast_pos]
  norm_cast

theorem int_lt_rational_iff {x : Binary64} {n : Int} :
    (n : ℚ) < x.rational ↔ n * unitsInOne < x.scaled := by
  rw [rational, lt_div_iff₀ unitsInOne_cast_pos]
  norm_cast

end Binary64

namespace Number

/-- What a number is worth exactly. What is not a number is put below all numbers, so that it is
not at least anything but minus infinity. -/
def exact : Number → WithBot (WithTop ℚ)
  | int n => ((n : ℚ) : WithTop ℚ)
  | float (.finite negative units) => ((Binary64.finite negative units).rational : WithTop ℚ)
  | float (.infinite negative) => if negative then ⊥ else (⊤ : WithTop ℚ)
  | float .nan => ⊥

theorem exact_zero : (float .zero).exact = 0 := by
  show ((Binary64.zero.rational : WithTop ℚ) : WithBot (WithTop ℚ)) = 0
  rw [Binary64.rational_zero]
  rfl

theorem coe_lt_top (q : ℚ) : ((q : WithTop ℚ) : WithBot (WithTop ℚ)) < ⊤ :=
  WithBot.coe_lt_coe.mpr (WithTop.coe_lt_top q)

theorem coe_lt_coe_iff {p q : ℚ} :
    ((p : WithTop ℚ) : WithBot (WithTop ℚ)) < (q : WithTop ℚ) ↔ p < q := by
  rw [WithBot.coe_lt_coe, WithTop.coe_lt_coe]

/-- Numbers are compared by what they are worth. -/
theorem less_iff {m n : Number} (hm : m ≠ .float .nan) (hn : n ≠ .float .nan) :
    m.less n = true ↔ m.exact < n.exact := by
  rcases m with m | ⟨a, k⟩ | a | _
  · rcases n with n | ⟨b, l⟩ | b | _
    · rw [less, exact, exact, decide_eq_true_iff, coe_lt_coe_iff, Int.cast_lt]
    · rw [less, Binary64.intLess, exact, exact, decide_eq_true_iff, coe_lt_coe_iff,
        Binary64.int_lt_rational_iff]
    · cases b <;> simp [less, exact, Binary64.intLess, coe_lt_top]
    · exact absurd rfl hn
  · rcases n with n | ⟨b, l⟩ | b | _
    · rw [less, Binary64.lessInt, exact, exact, decide_eq_true_iff, coe_lt_coe_iff,
        Binary64.rational_lt_int_iff]
    · rw [less, Binary64.less, exact, exact, decide_eq_true_iff, coe_lt_coe_iff,
        Binary64.rational_lt_iff]
    · cases b <;> simp [less, exact, Binary64.less, coe_lt_top]
    · exact absurd rfl hn
  · rcases n with n | ⟨b, l⟩ | b | _
    · cases a <;> simp [less, exact, Binary64.lessInt]
    · cases a <;> simp [less, exact, Binary64.less]
    · cases a <;> cases b <;> simp [less, exact, Binary64.less]
    · exact absurd rfl hn
  · exact absurd rfl hm

/-- The double that a number is to be as one: itself, or the nearest. -/
def Becomes : Number → Binary64 → Prop
  | int n, x => x.NearestTo n
  | float y, x => x = y

end Number

end Sequencer
