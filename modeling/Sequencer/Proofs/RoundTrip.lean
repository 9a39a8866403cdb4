import Sequencer.Proofs.Generation
import Sequencer.Proofs.Spelling

/-!
# Identifiers are taken apart into what they were made of

Making an identifier and taking one apart share no code: the one pads and joins, the other cuts
and matches patterns. A generation composes the spelling of its parts (`spelled_eq_text`), so
`Identifier.parse` gives back the moment to the millisecond, the counter value and the suffix. The
year is the one exception: it is composed without padding, and read in four digits.
-/

namespace Sequencer

open Text

namespace Moment

/-- A year of four digits needs no padding. -/
theorem digits_eq_spelled {m : Moment} (h : 1000 ≤ m.date.year) : m.digits = m.spelled := by
  have hyear := m.date.valid.1
  have hlen : (natural m.date.year).length = 4 :=
    length_natural_eq (by omega : 10 ^ 3 ≤ m.date.year) (by omega)
  unfold digits spelled cut StampCut.text
  rw [natural_eq_paddedNatural hlen]

theorem spelled_toMilliseconds (m : Moment) : m.toMilliseconds.spelled = m.spelled := by
  unfold spelled cut toMilliseconds TimeOfDay.toMilliseconds
  dsimp only
  rw [Nat.mul_div_cancel _ (by omega)]

end Moment

namespace Identifier

/-- The parts that a generation makes an identifier of. -/
def Parts.made (m : Moment) (value : Int) (suffix : Nat) : Parts :=
  ⟨m.toMilliseconds, value.toNat, suffix⟩

variable {ceiling value : Int} {m : Moment} {suffix : Nat}

theorem Parts.allowed_made (low : 0 ≤ value) (high : value ≤ ceiling) (hmin : suffixMin ≤ suffix)
    (hmax : suffix ≤ suffixMax) : (Parts.made m value suffix).Allowed ceiling where
  wholeMilliseconds := Nat.mul_mod_left ..
  noOffset := rfl
  counter_le := by
    show (value.toNat : Int) ≤ ceiling
    omega
  suffix_range := ⟨hmin, hmax⟩

theorem spelled_eq_text (hyear : 1000 ≤ m.date.year) (low : 0 ≤ value) (hmin : suffixMin ≤ suffix)
    (hmax : suffix ≤ suffixMax) :
    spelled ceiling value m.digits suffix = (Parts.made m value suffix).text ceiling := by
  unfold spelled Parts.text Parts.made counterSegment
  rw [Moment.spelled_toMilliseconds, ← Moment.digits_eq_spelled hyear, padded_of_nonneg _ low,
    natural_eq_paddedNatural (length_suffix hmin hmax)]
  rfl

end Identifier

namespace Generator

open Identifier (parse Parts)

variable {g : Generator}

/-- A generation that succeeds read a moment of a year from 1000 on and drew a suffix, and what
it delivers is the spelling of both with the counter between them. -/
theorem text_of_generate {text : String} (h : g.generate.result = .ok text) :
    ∃ (m : Moment) (suffix : Nat), g.reading = .reading m ∧ 1000 ≤ m.date.year ∧
      g.answer = .value (.int suffix) ∧ suffixMin ≤ suffix ∧ suffix ≤ suffixMax ∧
      0 ≤ g.counter.effective ∧
      text = (Parts.made m g.counter.effective suffix).text g.counter.ceiling := by
  rcases g.generate_cases with ⟨fault, sources, he, -⟩ | ⟨stamp, suffix, hs, hr, low, he⟩
  · rw [he] at h
    cases h
  · rw [he] at h
    cases h
    obtain ⟨m, hm, hyear, rfl⟩ := ClockAnswer.stamp_eq_ok_iff.mp hs
    obtain ⟨hanswer, hmin, hmax⟩ := DrawAnswer.suffix_eq_ok_iff.mp hr
    refine ⟨m, suffix, hm, hyear, hanswer, hmin, hmax, low, ?_⟩
    rw [Counter.compose_eq_spelled, Identifier.spelled_eq_text hyear low hmin hmax]

theorem parse_of_generate {text : String} (hc : 0 ≤ g.counter.ceiling)
    (h : g.generate.result = .ok text) :
    ∃ (m : Moment) (suffix : Nat), g.reading = .reading m ∧ 1000 ≤ m.date.year ∧
      g.answer = .value (.int suffix) ∧ 0 ≤ g.counter.effective ∧
      parse g.counter.ceiling text = .ok (Parts.made m g.counter.effective suffix) := by
  obtain ⟨m, suffix, hm, hyear, hanswer, hmin, hmax, low, rfl⟩ := text_of_generate h
  have hfits := g.counter.effective_fits
  exact ⟨m, suffix, hm, hyear, hanswer, low,
    Identifier.parse_text (Parts.allowed_made low (by omega) hmin hmax)⟩

/-- Parts of a year from 1000 on are what some generation is made of. -/
theorem generate_of_parts {p : Parts} (hp : p.Allowed g.counter.ceiling)
    (hyear : 1000 ≤ p.moment.date.year) (hvalue : g.counter.value = p.counter)
    (hm : g.reading = .reading p.moment) (hr : g.answer = .value (.int p.suffix)) :
    g.generate.result = .ok (p.text g.counter.ceiling) := by
  have hle := hp.counter_le
  have heffective : g.counter.effective = p.counter := by
    rw [Counter.effective, hvalue, if_neg (by omega)]
  have hstamp : g.reading.stamp = .ok p.moment.digits :=
    ClockAnswer.stamp_eq_ok_iff.mpr ⟨p.moment, hm, hyear, rfl⟩
  have hsuffix : g.answer.suffix = .ok p.suffix :=
    DrawAnswer.suffix_eq_ok_iff.mpr ⟨hr, hp.suffix_range.1, hp.suffix_range.2⟩
  have hwell := (wellFormed_compose_iff hstamp hsuffix).mpr (by omega)
  have hmade : Parts.made p.moment p.counter p.suffix = p := by
    rw [Parts.made, hp.toMilliseconds]
    rfl
  rw [generate_of_wellFormed hstamp hsuffix hwell, Counter.compose_eq_spelled, heffective,
    Identifier.spelled_eq_text hyear (by omega) hp.suffix_range.1 hp.suffix_range.2, hmade]

theorem generate_of_earlyYear {m : Moment} (hm : g.reading = .reading m)
    (hyear : m.date.year < 1000) :
    ∃ fault, g.generate.result = .error fault ∧ fault.kind = .clockFormat := by
  cases hs : g.reading.stamp with
  | ok stamp =>
    obtain ⟨m', hm', hyear', -⟩ := ClockAnswer.stamp_eq_ok_iff.mp hs
    rw [hm] at hm'
    cases hm'
    omega
  | error fault => exact ⟨.clock fault, by rw [generate_of_noStamp hs], rfl⟩

/-- **Encoder and decoder agree.** Under a ceiling of at least one, what a generation delivers is
taken apart into the moment that the clock showed, to the millisecond and without offset, the
value that it was made of and the draw. A text that can be taken apart is delivered by some
generation iff its year is at least 1000; a clock that shows an earlier year always fails. -/
theorem generate_parse_agree {ceiling : Int} (hc : 1 ≤ ceiling) :
    (∀ (g : Generator) (text : String), g.counter.ceiling = ceiling →
      0 ≤ g.counter.value → g.counter.value ≤ ceiling + 1 → g.generate.result = .ok text →
      ∃ (m : Moment) (draw : Int) (p : Parts), g.reading = .reading m ∧
        g.answer = .value (.int draw) ∧ parse ceiling text = .ok p ∧
        p.moment = m.toMilliseconds ∧
        (p.counter : Int) = (if g.counter.value = ceiling + 1 then 0 else g.counter.value) ∧
        (p.suffix : Int) = draw) ∧
    (∀ (text : String) (p : Parts), parse ceiling text = .ok p → 1000 ≤ p.moment.date.year →
      ∃ (g : Generator) (m : Moment) (draw : Int), g.counter.ceiling = ceiling ∧
        0 ≤ g.counter.value ∧ g.counter.value ≤ ceiling ∧ g.reading = .reading m ∧
        g.answer = .value (.int draw) ∧ g.generate.result = .ok text) ∧
    (∀ (g : Generator) (m : Moment), g.reading = .reading m → m.date.year < 1000 →
      ∃ fault, g.generate.result = .error fault ∧ fault.kind = .clockFormat) ∧
    ∀ (text : String) (p : Parts), parse ceiling text = .ok p → p.moment.date.year < 1000 →
      ∀ g : Generator, g.counter.ceiling = ceiling → g.generate.result ≠ .ok text := by
  refine ⟨?_, ?_, ?_, ?_⟩
  · rintro g text rfl low high h
    obtain ⟨m, suffix, hm, -, hanswer, hnonneg, hparse⟩ := parse_of_generate (by omega) h
    refine ⟨m, suffix, _, hm, hanswer, hparse, rfl, ?_, rfl⟩
    show (g.counter.effective.toNat : Int) = _
    rw [Int.toNat_of_nonneg hnonneg, Counter.effective]
    split <;> split <;> omega
  · intro text p h hyear
    obtain ⟨hp, rfl⟩ := Identifier.text_of_parse h
    let g : Generator := ⟨⟨ceiling, p.counter⟩,
      Sources.new ⟨.reading p.moment, []⟩ (.scripted ⟨.value (.int p.suffix), []⟩)⟩
    exact ⟨g, p.moment, p.suffix, rfl, Int.natCast_nonneg _, hp.counter_le, rfl, rfl,
      generate_of_parts (g := g) hp hyear rfl rfl rfl⟩
  · exact fun g m hm hyear => generate_of_earlyYear hm hyear
  · rintro text p h hyear g rfl hg
    obtain ⟨m, suffix, -, hm, -, -, hparse⟩ := parse_of_generate (by omega) hg
    rw [h] at hparse
    cases hparse
    exact absurd hyear (Nat.not_lt.mpr hm)

/-- On a leap day, under a ceiling of one thousand, a counter that waits at one above it: the last
microsecond of the day is read back as its last millisecond, and the counter as zero. -/
theorem generate_parse_agree_leapDay :
    let m : Moment := ⟨.mk 2024 2 29, .mk 23 59 59 999999, some 330⟩
    let g : Generator := ⟨⟨1000, 1001⟩,
      Sources.new ⟨.reading m, []⟩ (.scripted ⟨.value (.int 100000), []⟩)⟩
    let text := "202402292359599990000100000"
    (1 : Int) ≤ 1000 ∧ g.generate.result = .ok text ∧
      (∃ p, parse 1000 text = .ok p ∧ p.moment.time.microsecond = 999000 ∧ p.counter = 0) ∧
      ∃ h : Generator, h.generate.result = .ok text ∧ h.counter.value ≤ 1000 := by
  intro m g text
  have hresult : g.generate.result = .ok text := by
    have hdelivered : g.generate.result.toOption = some text := by decide +kernel
    cases hgenerate : g.generate.result with
    | ok identifier =>
      rw [hgenerate] at hdelivered
      exact congrArg Except.ok (Option.some.inj hdelivered)
    | error fault =>
      rw [hgenerate] at hdelivered
      cases hdelivered
  obtain ⟨hdecode, hencode, -, -⟩ := generate_parse_agree (by decide : (1 : Int) ≤ 1000)
  obtain ⟨m', draw, p, hm, -, hp, hmoment, hcounter, -⟩ :=
    hdecode g text rfl (by decide) (by decide) hresult
  cases hm
  obtain ⟨h, -, -, -, -, hle, -, -, hh⟩ := hencode text p hp (by rw [hmoment]; decide)
  refine ⟨by decide, hresult, ⟨p, hp, by rw [hmoment]; decide, ?_⟩, h, hh, hle⟩
  exact Int.ofNat.inj hcounter

end Generator

end Sequencer
