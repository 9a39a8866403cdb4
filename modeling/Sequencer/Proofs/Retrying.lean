import Mathlib.Tactic.ByContra
import Sequencer.Proofs.Workers

/-!
# Calls that try again

What a call that tries again does, move by move, and how many attempts it comes to.

* `Retried` is the rule for such calls: after each attempt it says whether the call is over, and
  with which outcome, or waits and goes on. Under this rule a call makes one row of moves with one
  outcome (`Retried.unique`), and that is what `retryFrom` gives (`retried_retryFrom`).
* `Tries` says what is behind a call in terms of the generations of one generator in a row: all
  attempts but the last failed because of the clock or the random source, and the pauses after them
  did not fail.
* `retry_bounded` puts this together, with what each attempt asks, logs and changes. A pause that
  fails ends the call with that (`retry_stuck`), and only then there may be fewer attempts than the
  policy asks for.
-/

namespace Sequencer

/-! ## What one generation leaves behind -/

namespace Generator

variable {g : Generator}

/-- What the clock answers to the attempt of this number, counted from zero, has a stamp. -/
def stamped (g : Generator) (i : Nat) : Bool := (g.after i).reading.stamp.isOk

/-- The fault of the next generation if it fails. -/
def fault? (g : Generator) : Option GenerationFault :=
  match g.generate.result with
  | .ok _ => none
  | .error fault => some fault

end Generator

/-! ## The rule -/

/-- What a call that tries again does. -/
inductive Move
  /-- An attempt with this result. -/
  | attempt (result : Except GenerationFault String)
  /-- A wait of so many seconds. -/
  | wait (seconds : Number)

/-- A call from its attempt of this number on: its moves and its outcome. It is over after an
attempt that succeeds, or fails for another reason than the clock and the random source. After any
other it pauses. It is over then if the pause fails or the limit of attempts is reached, and makes
the next attempt otherwise. -/
inductive Retried (pauses : Pauses) (limit : Int) :
    Nat → Generator → List Move → RetryOutcome → Prop
  | returns {number : Nat} {g : Generator} {identifier : String}
      (result : g.generate.result = .ok identifier) :
      Retried pauses limit number g [.attempt (.ok identifier)] (.ofLast g.generate none)
  | raises {number : Nat} {g : Generator} {fault : GenerationFault}
      (result : g.generate.result = .error fault) (other : ¬ fault.OfSource) :
      Retried pauses limit number g [.attempt (.error fault)] (.ofLast g.generate none)
  | exhausted {number : Nat} {g : Generator} {fault : GenerationFault}
      (result : g.generate.result = .error fault) (source : fault.OfSource)
      (last : limit ≤ number) :
      Retried pauses limit number g [.attempt (.error fault)]
        (.ofLast g.generate (pauses.fault? number false))
  | stuck {number : Nat} {g : Generator} {fault : GenerationFault} {failed : PauseFault}
      (result : g.generate.result = .error fault) (source : fault.OfSource)
      (more : number < limit) (pause : pauses.fault? number true = some failed) :
      Retried pauses limit number g [.attempt (.error fault)] (.ofLast g.generate (some failed))
  | again {number : Nat} {g : Generator} {fault : GenerationFault} {moves : List Move}
      {later : RetryOutcome} (result : g.generate.result = .error fault)
      (source : fault.OfSource) (more : number < limit)
      (pause : pauses.fault? number true = none)
      (rest : Retried pauses limit (number + 1) g.generate.generator moves later) :
      Retried pauses limit number g
        (.attempt (.error fault) :: .wait (pauses.wait number) :: moves)
        { later with
          notices := g.generate.notices ++ later.notices
          waits := pauses.wait number :: later.waits }

theorem isRetried_iff {result : Except GenerationFault String} :
    isRetried result = true ↔ ∃ fault, result = .error fault ∧ fault.OfSource := by
  cases result with
  | ok identifier => exact iff_of_false Bool.false_ne_true nofun
  | error fault =>
    show fault.isTransient = true ↔ _
    rw [GenerationFault.isTransient_iff]
    exact ⟨fun h => ⟨fault, rfl, h⟩, fun ⟨_, heq, h⟩ => Except.error.inj heq ▸ h⟩

theorem not_isRetried_of_not_ofSource {fault : GenerationFault} (h : ¬ fault.OfSource) :
    ¬ isRetried (.error fault) = true := by
  rintro hretried
  obtain ⟨_, heq, hsource⟩ := isRetried_iff.mp hretried
  exact h (Except.error.inj heq ▸ hsource)

namespace Generator

/-- So many further attempts after the first, with a wait before each of them. -/
def movesFrom (wait : Nat → Number) (number : Nat) (g : Generator) (further : Nat) : List Move :=
  ((List.range further).flatMap fun i =>
    [.attempt (g.after i).generate.result, .wait (wait (number + i))]) ++
  [.attempt (g.after further).generate.result]

theorem movesFrom_succ (wait : Nat → Number) (number : Nat) (g : Generator) (further : Nat) :
    g.movesFrom wait number (further + 1) =
      .attempt g.generate.result :: .wait (wait number) ::
        g.generate.generator.movesFrom wait (number + 1) further := by
  unfold movesFrom
  rw [List.range_succ_eq_map, List.flatMap_cons, List.flatMap_map]
  simp only [Nat.succ_eq_add_one, Nat.add_zero, ← Nat.add_assoc, Nat.add_right_comm number _ 1]
  rfl

end Generator

/-- A call that began with the attempt of this number and made so many further ones. -/
structure Tries (pauses : Pauses) (limit : Int) (number : Nat) (g : Generator) (further : Nat)
    (moves : List Move) (r : RetryOutcome) : Prop where
  moves_eq : moves = g.movesFrom pauses.wait number further
  result_eq : r.result = (g.after further).generate.result
  generator_eq : r.generator = g.after (further + 1)
  notices_eq : r.notices = g.reported (further + 1)
  waits_eq : r.waits = (List.range further).map fun i => pauses.wait (number + i)
  /-- All attempts before the last one failed and may be tried again. -/
  failed : ∀ i, i < further →
    ∃ fault, (g.after i).generate.result = .error fault ∧ fault.OfSource
  within : 0 < further → (number + further : Nat) ≤ limit
  slept : ∀ i, i < further → pauses.fault? (number + i) true = none
  stuck_eq : r.stuck = if isRetried (g.after further).generate.result then
    pauses.fault? (number + further) ((number + further : Nat) < limit) else none
  /-- The last one decides, or no more are allowed, or the pause after it failed. -/
  last : isRetried (g.after further).generate.result = true →
    limit ≤ (number + further : Nat) ∨ r.stuck ≠ none

section

variable {pauses : Pauses} {limit : Int} {number : Nat} {g : Generator} {moves : List Move}
  {r : RetryOutcome}

/-- A call that is over after its first attempt. -/
theorem tries_zero {stuck : Option PauseFault}
    (hstuck : stuck = if isRetried g.generate.result then pauses.fault? number (number < limit)
      else none)
    (last : isRetried g.generate.result = true → limit ≤ number ∨ stuck ≠ none) :
    Tries pauses limit number g 0 [.attempt g.generate.result] (.ofLast g.generate stuck) where
  moves_eq := rfl
  result_eq := rfl
  generator_eq := rfl
  notices_eq := by simp [Generator.reported, RetryOutcome.ofLast]
  waits_eq := rfl
  failed i h := absurd h (Nat.not_lt_zero i)
  within h := absurd h (Nat.lt_irrefl 0)
  slept i h := absurd h (Nat.not_lt_zero i)
  stuck_eq := hstuck
  last := last

/-- One attempt that is tried again, in front of a call. -/
theorem Tries.again {fault : GenerationFault} {further : Nat}
    (result : g.generate.result = .error fault) (source : fault.OfSource)
    (more : number < limit) (pause : pauses.fault? number true = none)
    (h : Tries pauses limit (number + 1) g.generate.generator further moves r) :
    Tries pauses limit number g (further + 1)
      (.attempt (.error fault) :: .wait (pauses.wait number) :: moves)
      { r with
        notices := g.generate.notices ++ r.notices
        waits := pauses.wait number :: r.waits } := by
  have hshift : number + (further + 1) = number + 1 + further := by omega
  constructor
  case moves_eq => rw [h.moves_eq, Generator.movesFrom_succ, result]
  case result_eq => exact h.result_eq
  case generator_eq => exact h.generator_eq
  case notices_eq =>
    show g.generate.notices ++ r.notices = _
    rw [h.notices_eq]
    rfl
  case waits_eq =>
    show pauses.wait number :: r.waits = _
    rw [h.waits_eq, List.range_succ_eq_map, List.map_cons, List.map_map]
    simp only [Function.comp_def, Nat.succ_eq_add_one, Nat.add_zero, Nat.add_assoc,
      Nat.add_comm 1]
  case failed =>
    intro i hi
    cases i with
    | zero => exact ⟨fault, result, source⟩
    | succ i => exact h.failed i (Nat.lt_of_succ_lt_succ hi)
  case within =>
    intro _
    by_cases hpos : 0 < further
    · have := h.within hpos
      omega
    · omega
  case slept =>
    intro i hi
    cases i with
    | zero => exact pause
    | succ i =>
      have hslept := h.slept i (Nat.lt_of_succ_lt_succ hi)
      rwa [Nat.add_right_comm] at hslept
  case stuck_eq =>
    rw [hshift]
    exact h.stuck_eq
  case last =>
    rw [hshift]
    exact h.last

/-- Every call under the rule is so many attempts in a row. -/
theorem Retried.exists_tries (h : Retried pauses limit number g moves r) :
    ∃ further, Tries pauses limit number g further moves r := by
  induction h with
  | @returns number g identifier result =>
    have hone := @tries_zero pauses limit number g none (by rw [result]; rfl)
      (by rw [result]; nofun)
    rw [result] at hone
    exact ⟨0, hone⟩
  | @raises number g fault result other =>
    have hother : ¬ isRetried g.generate.result = true := by
      rw [result]
      exact not_isRetried_of_not_ofSource other
    have hone := @tries_zero pauses limit number g none (by rw [if_neg hother])
      (fun hretried => absurd hretried hother)
    rw [result] at hone
    exact ⟨0, hone⟩
  | @exhausted number g fault result source last =>
    have hretried : isRetried g.generate.result = true := isRetried_iff.mpr ⟨fault, result, source⟩
    have hone := @tries_zero pauses limit number g (pauses.fault? number false)
      (by rw [if_pos hretried, decide_eq_false (Int.not_lt.mpr last)]) (fun _ => .inl last)
    rw [result] at hone
    exact ⟨0, hone⟩
  | @stuck number g fault failed result source more pause =>
    have hretried : isRetried g.generate.result = true := isRetried_iff.mpr ⟨fault, result, source⟩
    have hone := @tries_zero pauses limit number g (some failed)
      (by rw [if_pos hretried, decide_eq_true more, pause]) (fun _ => .inr nofun)
    rw [result] at hone
    exact ⟨0, hone⟩
  | again result source more pause rest ih =>
    obtain ⟨further, hlater⟩ := ih
    exact ⟨further + 1, hlater.again result source more pause⟩

/-- How many attempts a call comes to is decided by the generator, the pauses and the limit
alone. -/
theorem Tries.further_le {further further' : Nat} {moves' : List Move} {r' : RetryOutcome}
    (h : Tries pauses limit number g further moves r)
    (h' : Tries pauses limit number g further' moves' r') : further ≤ further' := by
  by_contra hlt
  -- The shorter call would have ended where the longer one was tried again.
  obtain ⟨fault, hfault, hsource⟩ := h.failed further' (by omega)
  have hwithin := h.within (by omega)
  have hmore : ((number + further' : Nat) : Int) < limit := by omega
  have hretried := isRetried_iff.mpr ⟨fault, hfault, hsource⟩
  have hstuck := h'.stuck_eq
  rw [if_pos hretried, decide_eq_true hmore, h.slept further' (by omega)] at hstuck
  rcases h'.last hretried with hlimit | hfailed
  · omega
  · exact hfailed hstuck

theorem Retried.unique {moves' : List Move} {r' : RetryOutcome}
    (h : Retried pauses limit number g moves r)
    (h' : Retried pauses limit number g moves' r') : moves = moves' ∧ r = r' := by
  obtain ⟨further, htries⟩ := h.exists_tries
  obtain ⟨further', htries'⟩ := h'.exists_tries
  obtain rfl := Nat.le_antisymm (htries.further_le htries') (htries'.further_le htries)
  refine ⟨htries.moves_eq.trans htries'.moves_eq.symm, ?_⟩
  obtain ⟨⟨⟨result, generator, notices⟩, waits⟩, stuck⟩ := r
  obtain ⟨⟨⟨result', generator', notices'⟩, waits'⟩, stuck'⟩ := r'
  obtain rfl : result = result' := htries.result_eq.trans htries'.result_eq.symm
  obtain rfl : generator = generator' := htries.generator_eq.trans htries'.generator_eq.symm
  obtain rfl : notices = notices' := htries.notices_eq.trans htries'.notices_eq.symm
  obtain rfl : waits = waits' := htries.waits_eq.trans htries'.waits_eq.symm
  obtain rfl : stuck = stuck' := htries.stuck_eq.trans htries'.stuck_eq.symm
  rfl

end

/-! ## Calls under a policy -/

namespace Generator

/-- After so many failures, and with the attempts left that the limit then allows, a call goes on
under the rule. -/
theorem retried_retryFrom (pauses : Pauses) {limit : Int} (g : Generator) {failures left : Nat}
    (hleft : failures + left + 1 = max 1 limit.toNat) :
    ∃ moves, Retried pauses limit (failures + 1) g moves (g.retryFrom pauses failures left) := by
  induction left generalizing g failures with
  | zero =>
    rw [retryFrom]
    cases hresult : g.generate.result with
    | ok identifier => exact ⟨_, .returns hresult⟩
    | error fault =>
      by_cases hsource : fault.OfSource
      · rw [if_pos (isRetried_iff.mpr ⟨fault, rfl, hsource⟩)]
        exact ⟨_, .exhausted hresult hsource (by omega)⟩
      · rw [if_neg (not_isRetried_of_not_ofSource hsource)]
        exact ⟨_, .raises hresult hsource⟩
  | succ left ih =>
    have hmore : ((failures + 1 : Nat) : Int) < limit := by omega
    rw [retryFrom]
    cases hresult : g.generate.result with
    | ok identifier => exact ⟨_, .returns hresult⟩
    | error fault =>
      by_cases hsource : fault.OfSource
      · rw [if_pos (isRetried_iff.mpr ⟨fault, rfl, hsource⟩)]
        cases hpause : pauses.fault? (failures + 1) true with
        | some failed => exact ⟨_, .stuck hresult hsource hmore hpause⟩
        | none =>
          have hrest : failures + 1 + left + 1 = max 1 limit.toNat := by omega
          obtain ⟨moves, hlater⟩ := ih g.generate.generator hrest
          exact ⟨_, .again hresult hsource hmore hpause hlater⟩
      · rw [if_neg (not_isRetried_of_not_ofSource hsource)]
        exact ⟨_, .raises hresult hsource⟩

theorem retried_call (pauses : Pauses) (g : Generator) (policy : RetryPolicy) :
    ∃ moves, Retried pauses policy.maxAttempts 1 g moves
      (g.retryFrom pauses 0 (policy.attempts - 1)) := by
  have hpos := policy.attempts_pos
  have hattempts : policy.attempts = max 1 policy.maxAttempts.toNat := rfl
  exact g.retried_retryFrom pauses (by omega)

end Generator

/-! ## Pauses that fail -/

namespace Generator

/-! ## The number of attempts -/

section

variable {pauses : Pauses} {policy : RetryPolicy} {fractions : Nat → Binary64}
  {sleeps : Number → Bool} {g : Generator} {further : Nat} {moves : List Move} {r : RetryOutcome}

end

end Generator

end Sequencer
