/-!
# Doubles

The numbers of the binary64 format as exact values. Every finite double is a whole multiple of
`2 ^ -1074`, the least positive one, so a sign and a natural number of such units hold it, and
comparisons are comparisons of naturals. Rounding keeps the fifty-three leading bits of a number
of units and sends a half to the even neighbour; below `2 ^ 53` units nothing is lost, which is
where the subnormal numbers lie. Each operation rounds its exact result once.
-/

namespace Sequencer

/-- A double: a signed number of units of `2 ^ -1074`, an infinity, or not a number. -/
inductive Binary64
  | finite (negative : Bool) (units : Nat)
  | infinite (negative : Bool)
  | nan
  deriving DecidableEq, Repr

namespace Binary64

/-- The number of units in one. -/
def unitsInOne : Nat := Nat.pow 2 1074

/-- The number of units at which the format ends: `2 ^ 1024`. -/
def unitsEnd : Nat := Nat.pow 2 2098

/-- The quotient rounded to a whole number, a half to the even neighbour. -/
def roundDiv (num den : Nat) : Nat :=
  if 2 * (num % den) > den ∨ (2 * (num % den) = den ∧ num / den % 2 = 1) then num / den + 1
  else num / den

/-- The binary exponent, in units, of the last of the fifty-three bits of a number. -/
def lastBit (units : Nat) : Nat := units.log2 - 52

/-- The quotient rounded to a number of units with at most fifty-three significant bits. -/
def roundUnits (num den : Nat) : Nat :=
  roundDiv num (den * Nat.pow 2 (lastBit (num / den))) * Nat.pow 2 (lastBit (num / den))

/-- The double nearest to a quotient of units, an infinity if it is too large. -/
def ofUnits (negative : Bool) (num den : Nat) : Binary64 :=
  if roundUnits num den < unitsEnd then .finite negative (roundUnits num den)
  else .infinite negative

/-- The double nearest to a quotient of naturals. -/
def ofRatio (negative : Bool) (num den : Nat) : Binary64 :=
  ofUnits negative (num * unitsInOne) den

/-- The positive zero. -/
def zero : Binary64 := .finite false 0

/-- The signed number of units of a finite double; zero for the others. -/
def scaled : Binary64 → Int
  | .finite negative units => if negative then -units else units
  | _ => 0

/-- Whether the double is a number, infinities included. -/
def isNumber : Binary64 → Bool
  | .nan => false
  | _ => true

/-- Whether the double is neither infinite nor not a number. -/
def isFinite : Binary64 → Bool
  | .finite .. => true
  | _ => false

/-- A double that is neither infinite nor not a number. -/
def finite? (x : Binary64) : Option Binary64 := if x.isFinite then some x else none

/-- The double nearest to an integer, if there is a finite one. -/
def ofInt? (n : Int) : Option Binary64 := finite? (ofRatio (n < 0) n.natAbs 1)

/-! ## Order -/

/-- Whether one double is less than another; false if either is not a number. -/
def less : Binary64 → Binary64 → Bool
  | .nan, _ => false
  | _, .nan => false
  | .infinite a, .infinite b => a && !b
  | .infinite a, .finite .. => a
  | .finite .., .infinite b => !b
  | .finite a m, .finite b n => (finite a m).scaled < (finite b n).scaled

/-- Whether a double is less than an integer, both taken exactly. -/
def lessInt : Binary64 → Int → Bool
  | .nan, _ => false
  | .infinite negative, _ => negative
  | .finite a m, n => (finite a m).scaled < n * unitsInOne

/-- Whether an integer is less than a double, both taken exactly. -/
def intLess : Int → Binary64 → Bool
  | _, .nan => false
  | _, .infinite negative => !negative
  | n, .finite a m => n * unitsInOne < (finite a m).scaled

/-! ## Arithmetic -/

/-- The number with its sign turned. -/
def neg : Binary64 → Binary64
  | .finite negative units => .finite (!negative) units
  | .infinite negative => .infinite (!negative)
  | .nan => .nan

/-- The sum, rounded. A sum of zero is positive unless both numbers are negative. -/
def add : Binary64 → Binary64 → Binary64
  | .nan, _ => .nan
  | _, .nan => .nan
  | .infinite a, .infinite b => if a = b then .infinite a else .nan
  | .infinite a, .finite .. => .infinite a
  | .finite .., .infinite b => .infinite b
  | .finite a m, .finite b n =>
    let sum := (finite a m).scaled + (finite b n).scaled
    if sum = 0 then .finite (a && b) 0 else ofUnits (sum < 0) sum.natAbs 1

/-- The difference, rounded. -/
def sub (x y : Binary64) : Binary64 := add x (neg y)

/-- The product, rounded. -/
def mul : Binary64 → Binary64 → Binary64
  | .nan, _ => .nan
  | _, .nan => .nan
  | .infinite a, .infinite b => .infinite (a != b)
  | .infinite a, .finite b n => if n = 0 then .nan else .infinite (a != b)
  | .finite a m, .infinite b => if m = 0 then .nan else .infinite (a != b)
  | .finite a m, .finite b n => ofUnits (a != b) (m * n) unitsInOne

/-- The whole part, toward zero; none for an infinity or not a number. -/
def truncate? : Binary64 → Option Int
  | .finite negative units =>
    let whole : Int := units / unitsInOne
    some (if negative then -whole else whole)
  | _ => none

/-! ## Laws -/

theorem roundDiv_mul (n d : Nat) (hd : 0 < d) : roundDiv (n * d) d = n := by
  simp [roundDiv, Nat.mul_div_cancel _ hd]
  omega

/-- A number of units below `2 ^ 53` is its own rounding. -/
theorem roundUnits_one_of_lt {units : Nat} (h : units < Nat.pow 2 53) :
    roundUnits units 1 = units := by
  have h0 : lastBit units = 0 := by
    unfold lastBit
    by_cases hu : units = 0
    · simp [hu]
    · have := (Nat.log2_lt hu).2 h
      omega
  have := roundDiv_mul units 1 (by omega)
  simp_all [roundUnits]

end Binary64

end Sequencer
