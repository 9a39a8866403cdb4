import Sequencer.Identifier.Parts
import Sequencer.Proofs.Stamps

/-!
# The one way to write an identifier

Reading is looser than writing: the fields of a stamp have several ways to be written, and digits
of every script. In ASCII nothing of this is left. A stamp is read as a moment iff it is the
spelling of it (`Moment.readStamp_spelled`, `Moment.spelled_of_readStamp`), and a text is taken
apart into parts iff it is theirs (`Identifier.parse_text`, `Identifier.text_of_parse`).
-/

namespace Sequencer

open Text

/-! ## Fields in ASCII -/

namespace StampCut

section

variable {digits : List Char}

/-- A kind of pairs that is a range of numbers as far as ASCII goes. -/
theorem isPair_iff_range {kind : Char → Char → Prop} (range : Nat → Prop)
    (h : IsNumeral 2 digits)
    (hkind : ∀ c d : Char, 48 ≤ c.toNat ∧ c.toNat ≤ 57 → 48 ≤ d.toNat ∧ d.toNat ≤ 57 →
      (kind c d ↔ range ((c.toNat - 48) * 10 + (d.toNat - 48)))) :
    IsPair kind digits ↔ range (naturalValue digits) := by
  obtain ⟨c, d, rfl⟩ := List.length_eq_two.mp h.length_eq
  have hc := isDigit_iff_toNat.mp (h.isDigit c (by simp))
  have hd := isDigit_iff_toNat.mp (h.isDigit d (by simp))
  have hvalue : naturalValue [c, d] = (c.toNat - 48) * 10 + (d.toNat - 48) := by
    rw [naturalValue_cons, naturalValue_cons]
    simp [naturalValue]
  rw [hvalue, ← hkind c d hc hd]
  simp [IsPair]

theorem month_iff_value (h : IsNumeral 2 digits) :
    IsPair Month digits ↔ 1 ≤ naturalValue digits ∧ naturalValue digits ≤ 12 := by
  refine isPair_iff_range (fun n => 1 ≤ n ∧ n ≤ 12) h fun c d hc hd => ?_
  rw [month_iff_toNat]
  omega

theorem day_iff_value (h : IsNumeral 2 digits) :
    IsPair Day digits ↔ 1 ≤ naturalValue digits ∧ naturalValue digits ≤ 31 := by
  refine isPair_iff_range (fun n => 1 ≤ n ∧ n ≤ 31) h fun c d hc hd => ?_
  simp only [day_iff_toNat, isDecimal_of_toNat hd, and_true]
  omega

theorem hour_iff_value (h : IsNumeral 2 digits) :
    IsPair Hour digits ↔ naturalValue digits ≤ 23 := by
  refine isPair_iff_range (fun n => n ≤ 23) h fun c d hc hd => ?_
  simp only [hour_iff_toNat, isDecimal_of_toNat hd, and_true]
  omega

theorem sixtieth_iff_value (h : IsNumeral 2 digits) :
    IsPair Sixtieth digits ↔ naturalValue digits ≤ 59 := by
  refine isPair_iff_range (fun n => n ≤ 59) h fun c d hc hd => ?_
  simp only [sixtieth_iff_toNat, isDecimal_of_toNat hd, and_true]
  omega

end

theorem decimals_of_numeral {width : Nat} {digits : List Char} (h : IsNumeral width digits) :
    Decimals width digits :=
  ⟨h.length_eq, fun c hc => isDecimal_of_toNat (isDigit_iff_toNat.mp (h.isDigit c hc))⟩

/-- ASCII decimals of a width that read as a number are its padded text. -/
theorem Decimals.eq_paddedNatural {width n : Nat} {digits : List Char} (h : Decimals width digits)
    (hw : 0 < width) (hn : n = decimalsValue digits) (hascii : ∀ c ∈ digits, c.isDigit = true) :
    digits = paddedNatural width n := by
  rw [hn, decimalsValue_ascii hascii]
  exact (IsNumeral.mk h.1 hascii).eq_paddedNatural hw

end StampCut

/-! ## Stamps in ASCII -/

namespace Moment

/-- The fields of a moment as zero-padded decimals, the year in four digits. -/
def cut (m : Moment) : StampCut where
  year := paddedNatural 4 m.date.year
  month := paddedNatural 2 m.date.month
  day := paddedNatural 2 m.date.day
  hour := paddedNatural 2 m.time.hour
  minute := paddedNatural 2 m.time.minute
  second := paddedNatural 2 m.time.second
  millisecond := paddedNatural 3 (m.time.microsecond / 1000)

/-- Year, month, day, hour, minute, second and millisecond as zero-padded decimals. -/
def spelled (m : Moment) : List Char := m.cut.text

theorem written_cut (m : Moment) : m.cut.Written := by
  obtain ⟨hyear, hmonth, hday⟩ := m.date.valid
  have hdays := daysInMonth_le m.date.year m.date.month
  have hhour := m.time.hour_lt
  have hminute := m.time.minute_lt
  have hsecond := m.time.second_lt
  have hmicro := m.time.microsecond_lt
  have pair : ∀ {n : Nat}, n < 60 → IsNumeral 2 (paddedNatural 2 n) := fun hn =>
    isNumeral_paddedNatural (by omega) (by omega)
  constructor
  case year => exact StampCut.decimals_of_numeral (isNumeral_paddedNatural (by omega) (by omega))
  case month =>
    rw [cut, StampCut.month_iff_value (pair (by omega)), naturalValue_padded]
    exact hmonth
  case day =>
    rw [cut, StampCut.day_iff_value (pair (by omega)), naturalValue_padded]
    omega
  case hour =>
    rw [cut, StampCut.hour_iff_value (pair (by omega)), naturalValue_padded]
    omega
  case minute =>
    rw [cut, StampCut.sixtieth_iff_value (pair (by omega)), naturalValue_padded]
    omega
  case second =>
    rw [cut, StampCut.sixtieth_iff_value (pair (by omega)), naturalValue_padded]
    omega
  case millisecond =>
    exact StampCut.decimals_of_numeral (isNumeral_paddedNatural (by omega) (by omega))

theorem tells_cut (m : Moment) : m.cut.Tells m.toMilliseconds := by
  have hvalue : ∀ width n, decimalsValue (paddedNatural width n) = n := fun width n => by
    rw [decimalsValue_ascii fun c => isDigit_of_mem_paddedNatural, naturalValue_padded]
  exact ⟨(hvalue 4 _).symm, (hvalue 2 _).symm, (hvalue 2 _).symm, (hvalue 2 _).symm,
    (hvalue 2 _).symm, (hvalue 2 _).symm, congrArg (· * 1000) (hvalue 3 _).symm, rfl⟩

theorem readStamp_spelled (m : Moment) :
    readStamp (String.ofList m.spelled) = .ok m.toMilliseconds :=
  readStamp_eq_ok_iff.mpr ⟨m.cut, (String.toList_ofList ..).symm, m.written_cut, m.tells_cut⟩

/-- There is one way only to write the fields of a moment in ASCII. -/
theorem eq_cut {f : StampCut} {m : Moment} (hw : f.Written) (ht : f.Tells m)
    (hascii : ∀ c ∈ f.text, c.isDigit = true) : f = m.cut := by
  have hmicro : m.time.microsecond / 1000 = decimalsValue f.millisecond := by
    rw [ht.microsecond, Nat.mul_div_cancel _ (by omega)]
  have hyear := hw.year.eq_paddedNatural (by omega) ht.year
    fun c hc => hascii c (by simp [StampCut.text, hc])
  have hmonth := (hw.month.decimals fun _ _ => StampCut.Month.isDecimal).eq_paddedNatural
    (by omega) ht.month fun c hc => hascii c (by simp [StampCut.text, hc])
  have hday := (hw.day.decimals fun _ _ => StampCut.Day.isDecimal).eq_paddedNatural
    (by omega) ht.day fun c hc => hascii c (by simp [StampCut.text, hc])
  have hhour := (hw.hour.decimals fun _ _ => StampCut.Hour.isDecimal).eq_paddedNatural
    (by omega) ht.hour fun c hc => hascii c (by simp [StampCut.text, hc])
  have hminute := (hw.minute.decimals fun _ _ => StampCut.Sixtieth.isDecimal).eq_paddedNatural
    (by omega) ht.minute fun c hc => hascii c (by simp [StampCut.text, hc])
  have hsecond := (hw.second.decimals fun _ _ => StampCut.Sixtieth.isDecimal).eq_paddedNatural
    (by omega) ht.second fun c hc => hascii c (by simp [StampCut.text, hc])
  have hmillisecond := hw.millisecond.eq_paddedNatural (by omega) hmicro
    fun c hc => hascii c (by simp [StampCut.text, hc])
  unfold cut
  rw [← hyear, ← hmonth, ← hday, ← hhour, ← hminute, ← hsecond, ← hmillisecond]

/-- A text in ASCII that reads as a moment is the spelling of that moment, which has no more than
milliseconds and no offset. -/
theorem spelled_of_readStamp {m : Moment} {text : String}
    (hascii : ∀ c ∈ text.toList, c.isDigit = true) (h : readStamp text = .ok m) :
    text.toList = m.spelled ∧ m.toMilliseconds = m := by
  obtain ⟨f, htext, hw, ht⟩ := readStamp_eq_ok_iff.mp h
  rw [← htext] at hascii ⊢
  have hcut := eq_cut hw ht hascii
  refine ⟨by rw [hcut]; rfl, ?_⟩
  have hread := readStamp_spelled m
  rw [spelled, ← hcut, htext, String.ofList_toList, h] at hread
  exact (Except.ok.inj hread).symm

end Moment

/-! ## Identifiers -/

namespace Identifier

/-- Parts that an identifier under the ceiling can have; that the date exists and the time of day
is one, their types say. -/
structure Parts.Allowed (ceiling : Int) (p : Parts) : Prop where
  wholeMilliseconds : p.moment.time.microsecond % 1000 = 0
  noOffset : p.moment.offset = none
  counter_le : p.counter ≤ ceiling
  suffix_range : 100000 ≤ p.suffix ∧ p.suffix ≤ 999999

/-- The parts as zero-padded decimals one after another: the moment in seventeen digits, the
counter in as many as the ceiling's text has characters, the suffix in six. -/
def Parts.text (ceiling : Int) (p : Parts) : String :=
  String.ofList (p.moment.spelled ++ paddedNatural (counterWidth ceiling) p.counter
    ++ paddedNatural 6 p.suffix)

theorem wellFormed_iff {ceiling : Int} {text : String} :
    wellFormed ceiling text = true ↔ IsNumeral (length ceiling) text.toList := by
  unfold wellFormed
  rw [Bool.and_eq_true, decide_eq_true_eq, List.all_eq_true]
  exact ⟨fun h => ⟨h.1, h.2⟩, fun h => ⟨h.length_eq, h.isDigit⟩⟩

theorem isNumeral_spelled (m : Moment) : IsNumeral stampWidth m.spelled := by
  have hw := m.written_cut
  refine ⟨(hw.decimals_front.append hw.millisecond).1, fun c hc => ?_⟩
  simp only [Moment.spelled, Moment.cut, StampCut.text, List.mem_append] at hc
  rcases hc with (((((hc | hc) | hc) | hc) | hc) | hc) | hc
  all_goals exact isDigit_of_mem_paddedNatural hc

theorem isNumeral_counter {ceiling : Int} {n : Nat} (h : n ≤ ceiling) :
    IsNumeral (counterWidth ceiling) (paddedNatural (counterWidth ceiling) n) :=
  ⟨length_counterSegment (Int.natCast_nonneg n) (.inr h), fun _ => isDigit_of_mem_paddedNatural⟩

namespace Parts.Allowed

variable {ceiling : Int} {p : Parts}

theorem toMilliseconds (h : p.Allowed ceiling) : p.moment.toMilliseconds = p.moment := by
  obtain ⟨⟨date, ⟨hour, minute, second, microsecond, _, _, _, _⟩, offset⟩, counter, suffix⟩ := p
  have hmicro : microsecond / 1000 * 1000 = microsecond :=
    Nat.div_mul_cancel (Nat.dvd_of_mod_eq_zero h.wholeMilliseconds)
  have hoffset : offset = none := h.noOffset
  simp only [Moment.toMilliseconds, TimeOfDay.toMilliseconds, hmicro, hoffset]

theorem isNumeral_suffix (h : p.Allowed ceiling) : IsNumeral 6 (paddedNatural 6 p.suffix) :=
  isNumeral_paddedNatural (by omega) (by have := h.suffix_range; omega)

theorem wellFormed (h : p.Allowed ceiling) : wellFormed ceiling (p.text ceiling) = true := by
  rw [wellFormed_iff, Parts.text, String.toList_ofList]
  exact ((isNumeral_spelled p.moment).append (isNumeral_counter h.counter_le)).append
    h.isNumeral_suffix

end Parts.Allowed

theorem parse_text {ceiling : Int} {p : Parts} (h : p.Allowed ceiling) :
    parse ceiling (p.text ceiling) = .ok p := by
  have hstamp := (isNumeral_spelled p.moment).length_eq
  have hcounter := (isNumeral_counter h.counter_le).length_eq
  have hsuffix := h.suffix_range
  have hcut : (p.text ceiling).toList = p.moment.spelled ++
      (paddedNatural (counterWidth ceiling) p.counter ++ paddedNatural 6 p.suffix) := by
    rw [Parts.text, String.toList_ofList, List.append_assoc]
  unfold parse
  rw [h.wellFormed, hcut, ← hstamp, List.take_left, List.drop_left]
  dsimp only
  rw [List.take_left' hcounter, List.drop_left' hcounter, Moment.readStamp_spelled,
    h.toMilliseconds, naturalValue_padded, naturalValue_padded]
  dsimp only
  rw [if_neg (by simp), if_neg (by have := h.counter_le; omega),
    if_neg (by unfold suffixMin suffixMax; omega)]

theorem text_of_parse {ceiling : Int} {p : Parts} {text : String}
    (h : parse ceiling text = .ok p) : p.Allowed ceiling ∧ text = p.text ceiling := by
  unfold parse at h
  split at h
  · cases h
  rename_i hwf
  rw [Bool.not_eq_true', Bool.not_eq_false] at hwf
  have hnum := wellFormed_iff.mp hwf
  rw [length, Nat.add_assoc] at hnum
  have hstamp := hnum.take
  have hcounter := hnum.drop.take
  have hsuffix : IsNumeral 6 _ := hnum.drop.drop
  dsimp only at h
  split at h
  · cases h
  rename_i moment hread
  split at h
  · cases h
  rename_i hle
  split at h
  · cases h
  rename_i hrange
  cases h
  obtain ⟨hspelled, hwhole⟩ := Moment.spelled_of_readStamp
    (fun c hc => hstamp.isDigit c (by rwa [String.toList_ofList] at hc)) hread
  rw [String.toList_ofList] at hspelled
  refine ⟨⟨?_, ?_, Int.not_lt.mp hle, ?_⟩, ?_⟩
  · have hmicro := congrArg (·.time.microsecond) hwhole
    simp only [Moment.toMilliseconds, TimeOfDay.toMilliseconds] at hmicro
    show moment.time.microsecond % 1000 = 0
    omega
  · exact congrArg Moment.offset hwhole.symm
  · rw [not_or] at hrange
    exact ⟨Nat.not_lt.mp hrange.1, Nat.not_lt.mp hrange.2⟩
  -- The three parts of the text are the three texts that the parts are spelled in.
  · rw [← String.toList_inj, Parts.text, String.toList_ofList, ← hspelled,
      ← hcounter.eq_paddedNatural (counterWidth_pos ceiling), ← hsuffix.eq_paddedNatural (by omega),
      List.append_assoc, List.take_append_drop, List.take_append_drop]

end Identifier

end Sequencer
