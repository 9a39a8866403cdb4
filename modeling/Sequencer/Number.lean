import Sequencer.Binary64.Shortest

/-!
# Numbers of two kinds

A setting such as a wait may be given as an integer or as a double, and stays what it was given
as. The two kinds are compared exactly. Arithmetic between integers is exact; as soon as a
double takes part, the integer is turned into the nearest double, which fails if there is no
finite one.
-/

namespace Sequencer

/-- An integer or a double. -/
inductive Number
  | int (n : Int)
  | float (x : Binary64)
  deriving DecidableEq, Repr

namespace Number

/-- Whether one number is less than another, both taken exactly. -/
def less : Number → Number → Bool
  | int m, int n => m < n
  | int m, float y => Binary64.intLess m y
  | float x, int n => Binary64.lessInt x n
  | float x, float y => Binary64.less x y

/-- The nearest double, if it is finite or the number is a double already. -/
def toBinary64? : Number → Option Binary64
  | int n => Binary64.ofInt? n
  | float x => some x

/-- An operation on integers, or on doubles if one number is a double. -/
def combine? (onInts : Int → Int → Int) (onDoubles : Binary64 → Binary64 → Binary64) :
    Number → Number → Option Number
  | int m, int n => some (int (onInts m n))
  | x, y => do return float (onDoubles (← x.toBinary64?) (← y.toBinary64?))

/-- The sum. -/
def add? : Number → Number → Option Number := combine? (· + ·) Binary64.add

/-- The difference. -/
def sub? : Number → Number → Option Number := combine? (· - ·) Binary64.sub

/-- The product. -/
def mul? : Number → Number → Option Number := combine? (· * ·) Binary64.mul

/-- The first of two numbers unless the second is less. -/
def atMost (x bound : Number) : Number := if bound.less x then bound else x

/-- The first of two numbers unless it is less than the second or not a number. -/
def atLeast (bound x : Number) : Number := if bound.less x then x else bound

/-- The whole part, toward zero; none for what is no finite number. -/
def truncate? : Number → Option Int
  | int n => some n
  | float x => x.truncate?

end Number

end Sequencer
