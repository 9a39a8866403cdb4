import Mathlib.Data.String.Basic
import Sequencer.Proofs.Conservation
import Sequencer.Proofs.Ordering

/-!
# Identifiers in the order in which they were made

A clock that never goes back gives stamps that never go back. Within a millisecond the counter
segments tell the order, until the counter starts again from zero: `Ledger.ResetsAt` says at which
successes that is, and follows the invariant `Balanced` step by step. Between two of them the
segments grow (`Balanced.segment_lt`), and with them the identifiers.
-/

namespace Sequencer

open Text

/-! ## Where a run starts again from zero -/

theorem emod_add_one {x p : Int} (hp : 0 < p) (h : (x + 1) % p ≠ 0) :
    (x + 1) % p = x % p + 1 := by
  have hlow := Int.emod_nonneg x (by omega : p ≠ 0)
  have hhigh := Int.emod_lt_of_pos x hp
  have hsplit : (x + 1) % p = (x % p + 1) % p := (Int.emod_add_emod x p 1).symm
  by_cases hlast : x % p + 1 = p
  · rw [hsplit, hlast, Int.emod_self] at h
    exact absurd rfl h
  · rw [hsplit, Int.emod_eq_of_lt (by omega) (by omega)]

theorem emod_add_of_ne_zero {base p : Int} (hp : 0 < p) (i distance : Nat)
    (h : ∀ k : Nat, i < k → k ≤ i + distance → (base + k) % p ≠ 0) :
    (base + (i + distance : Nat)) % p = (base + i) % p + distance := by
  induction distance with
  | zero => simp
  | succ distance ih =>
    have hprev := ih fun k hlow hhigh => h k hlow (by omega)
    have hnext := h (i + (distance + 1)) (by omega) (by omega)
    have hone : base + ((i + (distance + 1) : Nat) : Int) = base + (i + distance : Nat) + 1 := by
      omega
    rw [hone] at hnext ⊢
    rw [emod_add_one hp hnext, hprev]
    omega

namespace Ledger

/-- A success started again from zero iff its value comes round to zero, the very first apart. -/
def ResetsAt (ceiling : Int) (l : Ledger) : Prop :=
  ∀ (k : Nat) (e : Entry), l.entries[k]? = some e →
    (e.reset = true ↔ 0 < l.base + k ∧ (l.base + k) % (ceiling + 1) = 0)

variable {ceiling : Int} {l : Ledger}

/-- The balance tells whether the next success starts again from zero. -/
theorem Balanced.wraps_iff (h : l.Balanced ceiling) :
    l.generator.counter.wraps = true ↔
      0 < l.base + l.entries.length ∧ (l.base + l.entries.length) % (ceiling + 1) = 0 := by
  have hpos := h.ceiling_pos
  have hbalance := h.balance
  obtain ⟨hlow, hhigh⟩ := h.value_range
  have hresets : (0 : Int) ≤ l.resets * (ceiling + 1) := Int.mul_nonneg (by omega) (by omega)
  have hemod : (l.base + l.entries.length) % (ceiling + 1) = l.value % (ceiling + 1) := by
    rw [← hbalance, Int.add_mul_emod_self_right]
  rw [h.counter_eq, Counter.wraps, decide_eq_true_eq, hemod]
  dsimp only
  constructor
  · intro hover
    have hvalue : l.value = ceiling + 1 := by omega
    exact ⟨by omega, by rw [hvalue, Int.emod_self]⟩
  · rintro ⟨htotal, hzero⟩
    by_cases hover : l.value = ceiling + 1
    · omega
    · rw [Int.emod_eq_of_lt hlow (by omega)] at hzero
      -- A value of zero was set, and nothing was made since then.
      have hnil : l.entries = [] := by
        by_contra hne
        have := h.moved hne
        omega
      have hbase := h.untouched hnil
      rw [hnil, List.length_nil] at htotal
      omega

theorem ResetsAt.act (hr : l.ResetsAt ceiling) (h : l.Balanced ceiling) (a : Act) :
    (l.act a).ResetsAt ceiling := by
  cases a with
  | generate =>
    rcases l.generator.generate_cases with
      ⟨fault, sources, he, -⟩ | ⟨stamp, suffix, hs, hx, -, he⟩
    · rw [act_of_failed he]
      exact hr
    · rw [act_of_delivered he]
      intro k e hk
      rcases getElem?_concat_cases hk with hold | ⟨rfl, rfl⟩
      · exact hr k e hold
      · exact h.wraps_iff
  | force value =>
    by_cases hv : Counter.InRange l.generator.counter.ceiling value
    · rw [act_of_inRange hv]
      intro k e hk
      cases hk
    · rw [act_of_not_inRange hv]
      exact hr

theorem ResetsAt.run (hr : l.ResetsAt ceiling) (h : l.Balanced ceiling) (acts : List Act) :
    (l.run acts).ResetsAt ceiling := by
  induction acts generalizing l with
  | nil => exact hr
  | cons a rest ih => exact ih (hr.act h a) (h.act a)

/-- As long as no success starts again from zero, segments grow. -/
theorem Balanced.segment_lt (h : l.Balanced ceiling) (hr : l.ResetsAt ceiling) {i j : Nat}
    (hij : i < j) (hj : j < l.entries.length)
    (hno : ∀ (k : Nat) (e : Entry), i < k → k ≤ j → l.entries[k]? = some e → e.reset = false) :
    (l.base + i) % (ceiling + 1) < (l.base + j) % (ceiling + 1) := by
  have hpos := h.ceiling_pos
  have hbase := h.base_range.1
  obtain ⟨distance, rfl⟩ : ∃ d, j = i + d := ⟨j - i, by omega⟩
  rw [emod_add_of_ne_zero (by omega) i distance]
  · omega
  · intro k hlow hhigh hzero
    have hk : k < l.entries.length := by omega
    have hget := List.getElem?_eq_getElem hk
    have hreset := (hr k _ hget).mpr ⟨by omega, hzero⟩
    rw [hno k _ hlow hhigh hget] at hreset
    cases hreset

end Ledger

/-! ## What the clock shows -/

/-- What the clock answers to so many generations. -/
def Generator.readings (g : Generator) : Nat → List ClockAnswer
  | 0 => []
  | n + 1 => g.reading :: g.generate.generator.readings n

/-- The moment that the clock answers, if it answers with one. -/
def ClockAnswer.moment? : ClockAnswer → Option Moment
  | reading m => some m
  | _ => none

/-- Of the moments among the answers none is before an earlier one, as far as milliseconds
tell. -/
def NeverBack (answers : List ClockAnswer) : Prop :=
  (answers.filterMap ClockAnswer.moment?).Pairwise fun m n =>
    ¬ n.toMilliseconds.Before m.toMilliseconds

instance (answers : List ClockAnswer) : Decidable (NeverBack answers) := by
  unfold NeverBack; infer_instance

/-- The readings of the successes are some of the clock's answers, in their order. -/
theorem Generator.readings_successes (g : Generator) (n : Nat) :
    ((g.successes n).map Entry.reading).Sublist (g.readings n) := by
  induction n generalizing g with
  | zero => exact .slnil
  | succ n ih =>
    have hlater := ih g.generate.generator
    rw [successes, List.map_append]
    unfold readings entry?
    cases g.generate.result with
    | error fault => exact .cons _ hlater
    | ok identifier => exact .cons_cons _ hlater

/-! ## Two successes -/

/-- The digits of the stamp of an identifier. -/
def Identifier.stampPart (text : String) : String := String.ofList (text.toList.take stampWidth)

theorem Entry.MadeOf.exists_parts {ceiling value : Int} {e : Entry} (h : e.MadeOf ceiling value)
    (low : 0 ≤ value) (high : value ≤ ceiling) :
    ∃ (m : Moment) (suffix : Nat), e.reading = .reading m ∧
      (Identifier.Parts.made m value suffix).Allowed ceiling ∧
      e.identifier = (Identifier.Parts.made m value suffix).text ceiling := by
  obtain ⟨stamp, suffix, hs, hr, hid⟩ := h
  obtain ⟨m, hm, hyear, rfl⟩ := ClockAnswer.stamp_eq_ok_iff.mp hs
  obtain ⟨-, hmin, hmax⟩ := DrawAnswer.suffix_eq_ok_iff.mp hr
  refine ⟨m, suffix, hm, Identifier.Parts.allowed_made low high hmin hmax, ?_⟩
  rw [hid, Identifier.spelled_eq_text hyear low hmin hmax]

theorem Identifier.stampPart_text (ceiling : Int) (p : Parts) :
    stampPart (p.text ceiling) = String.ofList p.moment.spelled := by
  rw [stampPart, Parts.text, String.toList_ofList, List.append_assoc,
    List.take_left' (isNumeral_spelled p.moment).length_eq]

/-- What is known of the successes of a run, taken two by two. -/
structure Ledger.TimeOrdered (l : Ledger) : Prop where
  /-- Every success read a moment. -/
  read : ∀ e ∈ l.entries, ∃ m, e.reading = .reading m
  stamps : ∀ (i j : Nat) (d e : Entry), i < j → l.entries[i]? = some d → l.entries[j]? = some e →
    Identifier.stampPart d.identifier ≤ Identifier.stampPart e.identifier
  otherMillisecond : ∀ (i j : Nat) (d e : Entry) (m n : Moment), i < j →
    l.entries[i]? = some d → l.entries[j]? = some e → d.reading = .reading m →
    e.reading = .reading n → m.toMilliseconds ≠ n.toMilliseconds → d.identifier < e.identifier
  noReset : ∀ (i j : Nat) (d e : Entry), i < j → l.entries[i]? = some d →
    l.entries[j]? = some e →
    (∀ (k : Nat) (f : Entry), i < k → k ≤ j → l.entries[k]? = some f → f.reset = false) →
    d.identifier < e.identifier

namespace Ledger

variable {ceiling : Int} {l : Ledger}

theorem Balanced.exists_parts (h : l.Balanced ceiling) {k : Nat} {e : Entry}
    (hk : l.entries[k]? = some e) :
    ∃ (m : Moment) (suffix : Nat), e.reading = .reading m ∧
      (Identifier.Parts.made m ((l.base + k) % (ceiling + 1)) suffix).Allowed ceiling ∧
      e.identifier =
        (Identifier.Parts.made m ((l.base + k) % (ceiling + 1)) suffix).text ceiling := by
  obtain ⟨hlow, hhigh⟩ := emod_range h.ceiling_pos (l.base + k)
  exact (h.made k e hk).exists_parts hlow hhigh

theorem spelled_le (never : NeverBack (l.entries.map Entry.reading)) {i j : Nat} {d e : Entry}
    {m n : Moment} (hij : i < j) (hi : l.entries[i]? = some d) (hj : l.entries[j]? = some e)
    (hm : d.reading = .reading m) (hn : e.reading = .reading n) : m.spelled ≤ n.spelled := by
  obtain ⟨hilt, rfl⟩ := List.getElem?_eq_some_iff.mp hi
  obtain ⟨hjlt, rfl⟩ := List.getElem?_eq_some_iff.mp hj
  have hpairs := List.pairwise_filterMap.mp never
  rw [List.pairwise_map, List.pairwise_iff_getElem] at hpairs
  have hpair := hpairs i j hilt hjlt hij m (by rw [hm]; rfl) n (by rw [hn]; rfl)
  rw [← Moment.spelled_lt_iff] at hpair
  exact not_lt.mp hpair

/-- Of two successes in different milliseconds the later one has the later moment. -/
theorem before_of_ne (never : NeverBack (l.entries.map Entry.reading)) {i j : Nat} {d e : Entry}
    {m n : Moment} (hij : i < j) (hi : l.entries[i]? = some d) (hj : l.entries[j]? = some e)
    (hm : d.reading = .reading m) (hn : e.reading = .reading n)
    (hne : m.toMilliseconds ≠ n.toMilliseconds) :
    m.toMilliseconds.Before n.toMilliseconds := by
  have hspelled : m.spelled ≠ n.spelled := fun heq => hne (Moment.spelled_inj.mp heq)
  have hle := spelled_le never hij hi hj hm hn
  exact Moment.spelled_lt_iff.mp (lt_of_le_of_ne hle hspelled)

/-- Successes whose readings never go back are in the order of time. -/
theorem Balanced.timeOrdered (h : l.Balanced ceiling) (hr : l.ResetsAt ceiling)
    (never : NeverBack (l.entries.map Entry.reading)) : l.TimeOrdered := by
  constructor
  case read =>
    intro e he
    obtain ⟨k, hk⟩ := List.mem_iff_getElem?.mp he
    obtain ⟨m, _, hm, -⟩ := h.exists_parts hk
    exact ⟨m, hm⟩
  case stamps =>
    intro i j d e hij hi hj
    obtain ⟨m, suffix, hm, -, hid⟩ := h.exists_parts hi
    obtain ⟨n, suffix', hn, -, hid'⟩ := h.exists_parts hj
    rw [hid, hid', Identifier.stampPart_text, Identifier.stampPart_text,
      String.le_iff_toList_le, String.toList_ofList, String.toList_ofList]
    simp only [Identifier.Parts.made, Moment.spelled_toMilliseconds]
    exact spelled_le never hij hi hj hm hn
  case otherMillisecond =>
    intro i j d e m n hij hi hj hm hn hne
    obtain ⟨m', suffix, hm', hp, hid⟩ := h.exists_parts hi
    obtain ⟨n', suffix', hn', hq, hid'⟩ := h.exists_parts hj
    rw [hm] at hm'
    rw [hn] at hn'
    cases hm'
    cases hn'
    rw [hid, hid', Identifier.text_lt_iff hp hq]
    exact .inl (before_of_ne never hij hi hj hm hn hne)
  case noReset =>
    intro i j d e hij hi hj hno
    obtain ⟨m, suffix, hm, hp, hid⟩ := h.exists_parts hi
    obtain ⟨n, suffix', hn, hq, hid'⟩ := h.exists_parts hj
    rw [hid, hid', Identifier.text_lt_iff hp hq]
    by_cases hsame : m.toMilliseconds = n.toMilliseconds
    -- In one millisecond it is the segments that grow.
    · have hlt := h.segment_lt hr hij (List.getElem?_eq_some_iff.mp hj).1 hno
      have hlow := (emod_range h.ceiling_pos (l.base + i)).1
      refine .inr ⟨hsame, .inl ?_⟩
      simp only [Identifier.Parts.made]
      omega
    · exact .inl (before_of_ne never hij hi hj hm hn hsame)

end Ledger

/-! ## Whole runs -/

/-- A row of generations whose clock never goes back makes identifiers in the order of time. -/
theorem Generator.timeOrdered_generations {g : Generator} (sound : g.counter.Sound) {n : Nat}
    (never : NeverBack (g.readings n)) :
    ((Ledger.opened g).run (List.replicate n .generate)).TimeOrdered := by
  have hopened := Ledger.balanced_of_sound sound
  have hreset : (Ledger.opened g).ResetsAt g.counter.ceiling := by
    intro k e hk
    cases hk
  refine (hopened.run _).timeOrdered (hreset.run hopened _) ?_
  rw [((Ledger.opened g).run_successes n).2]
  exact List.Pairwise.sublist ((g.readings_successes n).filterMap _) never

namespace Deed

variable (fraction : Binary64)

/-- Deeds that set no value are as many generations as the clock was asked. -/
theorem history_eq_replicate {s : Session} {deeds : List Deed}
    (hd : ∀ d ∈ deeds, ¬ ∃ value, d = .force value) :
    ∃ n, (play fraction s deeds).2.generator.sources.clockCalls =
        s.generator.sources.clockCalls + n ∧
      history fraction s deeds = List.replicate n .generate := by
  -- On the deeds, for every session: the clock calls of the first and of the others add up.
  induction deeds generalizing s with
  | nil => exact ⟨0, rfl, rfl⟩
  | cons d rest ih =>
    obtain ⟨n, hcalls, hhistory⟩ :=
      @ih (d.perform fraction s).2 fun d' hd' => hd d' (List.mem_cons_of_mem d hd')
    have hfirst := hd d List.mem_cons_self
    obtain ⟨m, hspan, -⟩ := spans fraction s hfirst
    have hclock := s.generator.clockCalls_after m
    rw [← hspan] at hclock
    have hacts := acts_of_not_force fraction s hfirst
    rw [hclock, Nat.add_sub_cancel_left] at hacts
    refine ⟨m + n, ?_, ?_⟩
    · show (play fraction (d.perform fraction s).2 rest).2.generator.sources.clockCalls = _
      rw [hcalls, hclock, Nat.add_assoc]
    · unfold history
      rw [hacts, hhistory, List.replicate_append_replicate]

end Deed

/-- **Order.** Texts that can be taken apart under one ceiling are in the order of their parts,
and equal iff the parts are. So as long as no value is set and the clock never goes back as far as
milliseconds tell, a generator with a sound counter makes its identifiers in the order of time,
whatever fails in between: of any two the later one has no earlier stamp, and is the greater text
if their milliseconds differ or if the counter did not start again from zero after the first of
them. -/
theorem identifiers_in_order :
    (∀ (ceiling : Int) (a b : String) (p q : Identifier.Parts),
      Identifier.parse ceiling a = .ok p → Identifier.parse ceiling b = .ok q →
        (a < b ↔ p.Before q) ∧ (a = b ↔ p = q)) ∧
    (∀ (g : Generator) (n : Nat), g.counter.Sound → NeverBack (g.readings n) →
      ((Ledger.opened g).run (List.replicate n .generate)).TimeOrdered) ∧
    ∀ (g : Generator) (fraction : Binary64) (deeds : List Deed), g.counter.Sound →
      (∀ d ∈ deeds, ¬ ∃ value, d = .force value) →
      let after := (Deed.play fraction ⟨g, []⟩ deeds).2.generator
      let l := (Ledger.opened g).run (Deed.history fraction ⟨g, []⟩ deeds)
      NeverBack (g.readings (after.sources.clockCalls - g.sources.clockCalls)) →
        l.TimeOrdered ∧ l.generator = after ∧
          l.log = (Deed.play fraction ⟨g, []⟩ deeds).1 := by
  refine ⟨?_, ?_, ?_⟩
  · intro ceiling a b p q ha hb
    obtain ⟨hp, rfl⟩ := Identifier.text_of_parse ha
    obtain ⟨hq, rfl⟩ := Identifier.text_of_parse hb
    exact ⟨Identifier.text_lt_iff hp hq, Identifier.text_inj hp hq⟩
  · intro g n sound never
    exact Generator.timeOrdered_generations sound never
  · intro g fraction deeds sound hd after l never
    obtain ⟨hgenerator, hlog⟩ :=
      Ledger.run_history fraction (rfl : (Ledger.opened g).generator = g) deeds (s := ⟨g, []⟩)
    refine ⟨?_, hgenerator, hlog⟩
    obtain ⟨n, hcalls, hhistory⟩ := Deed.history_eq_replicate fraction (s := ⟨g, []⟩) hd
    rw [hcalls, Nat.add_sub_cancel_left] at never
    show ((Ledger.opened g).run (Deed.history fraction ⟨g, []⟩ deeds)).TimeOrdered
    rw [hhistory]
    exact Generator.timeOrdered_generations sound never

/-- The clock fails once and stands still within a millisecond; a counter with two values starts
again in the middle of it, and the text of the second identifier is less than that of the first.
The third, of the next millisecond, is greater than both. -/
theorem identifiers_in_order_newStart :
    let first : Moment := ⟨.mk 2026 7 17, .mk 12 0 0 250, none⟩
    let second : Moment := ⟨.mk 2026 7 17, .mk 12 0 0 999, none⟩
    let third : Moment := ⟨.mk 2026 7 17, .mk 12 0 0 1000, none⟩
    let g : Generator := ⟨⟨1, 1⟩,
      Sources.new ⟨.reading first, [.raised "no time", .reading second, .reading third]⟩
        (.scripted ⟨.value (.int 100000), []⟩)⟩
    let deeds : List Deed :=
      [.generate, .generate, .schedule 2 1 ⟨1, .int 0, .int 0⟩ [1, 0]]
    let l := (Ledger.opened g).run (Deed.history .zero ⟨g, []⟩ deeds)
    let p : Identifier.Parts := ⟨first.toMilliseconds, 1, 100000⟩
    let q : Identifier.Parts := ⟨third.toMilliseconds, 1, 100000⟩
    g.counter.Sound ∧ NeverBack (g.readings 4) ∧ l.TimeOrdered ∧
      l.entries.map Entry.identifier =
        [p.text 1, "202607171200000000100000", q.text 1] ∧
      "202607171200000000100000" < p.text 1 ∧ Identifier.parse 1 (p.text 1) = .ok p ∧
      Identifier.parse 1 (q.text 1) = .ok q ∧ p.text 1 < q.text 1 := by
  intro first second third g deeds l p q
  have sound : g.counter.Sound := by decide
  have hcalls : (Deed.play .zero ⟨g, []⟩ deeds).2.generator.sources.clockCalls -
      g.sources.clockCalls = 4 := by decide +kernel
  have never : NeverBack (g.readings 4) := by decide +kernel
  have hforce : ∀ d ∈ deeds, ¬ ∃ value, d = .force value := by
    simp [deeds]
  have hp : Identifier.parse 1 (p.text 1) = .ok p := by
    apply Identifier.parse_text
    constructor <;> decide
  have hq : Identifier.parse 1 (q.text 1) = .ok q := by
    apply Identifier.parse_text
    constructor <;> decide
  obtain ⟨horder, -, hrun⟩ := identifiers_in_order
  refine ⟨sound, never, ?_, by decide +kernel, by decide +kernel, hp, hq, ?_⟩
  · exact (hrun g .zero deeds sound hforce (by rw [hcalls]; exact never)).1
  · exact (horder 1 _ _ p q hp hq).1.mpr (by decide)

end Sequencer
