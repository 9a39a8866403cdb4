/-!
# The Mersenne twister

The generator MT19937 of 32-bit words, seeded by an array of words. It fixes the numbers that a
seeded source draws, so that a seed gives the same suffixes everywhere.
-/

namespace Sequencer.Random

/-- The number of words of the state. -/
def stateSize : Nat := 624

/-- The state: its words, and the index of the next one to give out. -/
structure Twister where
  words : Array UInt32
  index : Nat

/-- The word at an index. -/
def wordAt (words : Array UInt32) (i : Nat) : UInt32 := words[i]?.getD 0

/-- The state that one word spreads to. -/
def spread (seed : UInt32) : Array UInt32 :=
  (List.range (stateSize - 1)).foldl
    (fun words i =>
      let last := wordAt words i
      words.push ((1812433253 : UInt32) * (last ^^^ (last >>> 30)) + UInt32.ofNat (i + 1)))
    #[seed]

/-- A place in the state while a key is mixed in. Past the end, the last word becomes the first
and mixing goes on behind it. -/
def settle (words : Array UInt32) (i : Nat) : Array UInt32 × Nat :=
  if i ≥ stateSize then (words.setIfInBounds 0 (wordAt words (stateSize - 1)), 1) else (words, i)

/-- One step of mixing: the word at `i` is changed by `change`, given the word before it. -/
def mix (change : UInt32 → UInt32 → UInt32) (state : Array UInt32 × Nat) : Array UInt32 × Nat :=
  let (words, i) := state
  let before := wordAt words (i - 1)
  settle (words.setIfInBounds i (change (before ^^^ (before >>> 30)) (wordAt words i))) (i + 1)

/-- The state that a key, a list of words, gives. -/
def Twister.ofKey (key : List UInt32) : Twister :=
  let rounds := max stateSize key.length
  let state := (List.range rounds).foldl
    (fun state k =>
      let j := k % key.length
      mix (fun before old => (old ^^^ (before * 1664525)) + key.getD j 0 + UInt32.ofNat j) state)
    (spread 19650218, 1)
  let state := (List.range (stateSize - 1)).foldl
    (fun state _ =>
      mix (fun before old => (old ^^^ (before * 1566083941)) - UInt32.ofNat state.2) state)
    state
  ⟨state.1.setIfInBounds 0 0x80000000, stateSize⟩

/-- The 32-bit words of a number, least significant first; one word for zero. -/
def wordsOf (n : Nat) : List UInt32 :=
  if h : n < 0x100000000 then [UInt32.ofNat n]
  else UInt32.ofNat n :: wordsOf (n / 0x100000000)
termination_by n
decreasing_by omega

/-- The state that an integer seed gives: the words of its magnitude are the key. -/
def Twister.ofSeed (seed : Int) : Twister := .ofKey (wordsOf seed.natAbs)

/-- The word that follows from two neighbours and a distant word. -/
def twist (upper lower distant : UInt32) : UInt32 :=
  let y := (upper &&& 0x80000000) ||| (lower &&& 0x7fffffff)
  distant ^^^ (y >>> 1) ^^^ (if y &&& 1 = 0 then 0 else 0x9908b0df)

/-- The next six hundred and twenty-four words. -/
def renew (words : Array UInt32) : Array UInt32 :=
  (List.range stateSize).foldl
    (fun words i =>
      words.setIfInBounds i
        (twist (wordAt words i) (wordAt words ((i + 1) % stateSize))
          (wordAt words ((i + 397) % stateSize))))
    words

/-- The form in which a word is given out. -/
def temper (y : UInt32) : UInt32 :=
  let y := y ^^^ (y >>> 11)
  let y := y ^^^ ((y <<< 7) &&& 0x9d2c5680)
  let y := y ^^^ ((y <<< 15) &&& 0xefc60000)
  y ^^^ (y >>> 18)

/-- The next word. -/
def Twister.next (t : Twister) : UInt32 × Twister :=
  let t := if t.index ≥ stateSize then ⟨renew t.words, 0⟩ else t
  (temper (wordAt t.words t.index), ⟨t.words, t.index + 1⟩)

/-- A number below a bound of at most twenty bits: the twenty leading bits of a word, drawn
again while they are not below the bound. The number of draws is limited, which is out of reach
for a bound above half of the range. -/
def Twister.below (bound : Nat) (t : Twister) : (draws : Nat) → Nat × Twister
  | 0 => (0, t)
  | draws + 1 =>
    let (word, t) := t.next
    let r := (word >>> 12).toNat
    if r < bound then (r, t) else below bound t draws

/-- A drawn number is below the bound. -/
theorem Twister.below_lt {bound : Nat} (h : 0 < bound) (t : Twister) (draws : Nat) :
    (t.below bound draws).1 < bound := by
  induction draws generalizing t with
  | zero => exact h
  | succ draws ih =>
    unfold Twister.below
    dsimp only
    split
    · assumption
    · exact ih _

end Sequencer.Random
