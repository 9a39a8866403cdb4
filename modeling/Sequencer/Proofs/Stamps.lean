import Mathlib.Algebra.Ring.Nat
import Mathlib.Data.List.Forall2
import Sequencer.Proofs.Layout
import Sequencer.Proofs.Numeral

/-!
# Which texts are stamps

A stamp is cut into its fields by matching, and a field may be written in several ways of different
widths, tried from the widest on. In a text that is as long as the fields are wide together a
shorter way leaves too much for the fields behind it, so a stamp is cut into fields of full width
or not at all (`takeFields?_full_iff`). What stands in each of them says `StampCut.Written`, and
`readStamp_eq_ok_iff` puts this together: it holds of texts in every script.
-/

namespace Sequencer

open Text

/-! ## Cutting a text into fields -/

/-- The characters are written in one of the ways of a field, each of its class. -/
def Fits (field : List Alternative) (chars : List Char) : Prop :=
  ∃ alternative ∈ field, List.Forall₂ (fun p c => p c = true) alternative chars

/-- A field is at most so wide, and its wider ways stand in front. -/
structure WidestFirst (width : Nat) (field : List Alternative) : Prop where
  le_width : ∀ alternative ∈ field, alternative.length ≤ width
  sorted : field.Pairwise fun a b => b.length ≤ a.length

theorem takeAlternative?_eq_some_iff {alternative : Alternative} {text taken rest : List Char} :
    takeAlternative? alternative text = some (taken, rest) ↔
      taken ++ rest = text ∧ List.Forall₂ (fun p c => p c = true) alternative taken := by
  induction alternative generalizing text taken with
  | nil =>
    rw [takeAlternative?, List.forall₂_nil_left_iff]
    constructor
    · intro h
      cases h
      exact ⟨rfl, rfl⟩
    · rintro ⟨rfl, rfl⟩
      rfl
  | cons p ps ih =>
    cases text with
    | nil =>
      rw [takeAlternative?]
      constructor
      · intro h
        cases h
      · rintro ⟨happ, hall⟩
        obtain ⟨rfl, rfl⟩ := List.append_eq_nil_iff.mp happ
        cases hall
    | cons c text =>
      unfold takeAlternative?
      constructor
      · intro h
        split at h
        · rename_i hc
          obtain ⟨⟨t, r⟩, ht, he⟩ := Option.map_eq_some_iff.mp h
          cases he
          obtain ⟨happ, hall⟩ := ih.mp ht
          exact ⟨by rw [List.cons_append, happ], .cons hc hall⟩
        · cases h
      · rintro ⟨happ, hall⟩
        cases hall with
        | cons hc hall =>
          rw [List.cons_append, List.cons.injEq] at happ
          obtain ⟨rfl, happ⟩ := happ
          rw [if_pos hc, ih.mpr ⟨happ, hall⟩]
          rfl

/-- Of elements in order, one is found that agrees with every element before it that gives
anything. -/
theorem findSome?_eq_some_of_sorted {α β : Type} {r : α → α → Prop} {f : α → Option β}
    {l : List α} {a : α} {b : β} (hs : l.Pairwise r) (ha : a ∈ l) (hb : f a = some b)
    (hfirst : ∀ x ∈ l, r x a → ∀ y, f x = some y → y = b) : l.findSome? f = some b := by
  induction l with
  | nil => cases ha
  | cons x l ih =>
    rw [List.pairwise_cons] at hs
    rw [List.findSome?_cons]
    rcases List.mem_cons.mp ha with rfl | hmem
    · rw [hb]
    · cases hx : f x with
      | none => exact ih hs.2 hmem fun x' hx' => hfirst x' (List.mem_cons_of_mem x hx')
      | some y => rw [hfirst x List.mem_cons_self (hs.1 a hmem) y hx]

theorem fits_of_takeFields? {fields : List (List Alternative)} {text rest : List Char}
    {taken : List (List Char)} (h : takeFields? fields text = some (taken, rest)) :
    List.Forall₂ Fits fields taken := by
  induction fields generalizing text taken with
  | nil =>
    cases h
    exact .nil
  | cons field fields ih =>
    obtain ⟨alternative, hmem, h⟩ := List.exists_of_findSome?_eq_some h
    split at h
    · cases h
    · rename_i front behind hf
      obtain ⟨⟨more, r⟩, hm, he⟩ := Option.map_eq_some_iff.mp h
      cases he
      exact .cons ⟨alternative, hmem, (takeAlternative?_eq_some_iff.mp hf).2⟩ (ih hm)

/-- Fields whose widths are bounded one by one and add up to the sum of the bounds are as wide as
their bounds. -/
theorem length_eq_of_fits {widths : List Nat} {fields : List (List Alternative)}
    (hf : List.Forall₂ WidestFirst widths fields) {taken : List (List Char)}
    (h : List.Forall₂ Fits fields taken) :
    taken.flatten.length ≤ widths.sum ∧
      (taken.flatten.length = widths.sum → taken.map List.length = widths) := by
  induction hf generalizing taken with
  | nil =>
    cases h
    simp
  | @cons width field widths fields hfield hfields ih =>
    cases h with
    | @cons _ chars _ taken hfits hrest =>
      obtain ⟨alternative, hmem, hall⟩ := hfits
      have hle : chars.length ≤ width := hall.length_eq ▸ hfield.le_width alternative hmem
      obtain ⟨hsum, heq⟩ := ih hrest
      rw [List.flatten_cons, List.length_append, List.sum_cons, List.map_cons]
      refine ⟨by omega, fun h => ?_⟩
      rw [heq (by omega), show chars.length = width by omega]

/-- A text as long as the fields are wide is cut into fields of full width, or not at all: ways
that are shorter leave too much for the fields after them. -/
theorem takeFields?_full_iff {widths : List Nat} {fields : List (List Alternative)}
    (hf : List.Forall₂ WidestFirst widths fields) {text : List Char} {taken : List (List Char)}
    (hlen : text.length = widths.sum) :
    takeFields? fields text = some (taken, []) ↔
      taken.flatten = text ∧ taken.map List.length = widths ∧ List.Forall₂ Fits fields taken := by
  constructor
  · intro h
    have hflat := flatten_append_of_takeFields? h
    have hfits := fits_of_takeFields? h
    rw [List.append_nil] at hflat
    exact ⟨hflat, (length_eq_of_fits hf hfits).2 (by rw [hflat, hlen]), hfits⟩
  · rintro ⟨rfl, hwidths, hfits⟩
    clear hlen
    induction hf generalizing taken with
    | nil =>
      cases hfits
      rfl
    | @cons width field widths fields hfield hfields ih =>
      cases hfits with
      | @cons _ chars _ taken hchars hrest =>
        rw [List.map_cons, List.cons.injEq] at hwidths
        obtain ⟨hwidth, hwidths⟩ := hwidths
        have hmore := ih hwidths hrest
        obtain ⟨alternative, hmem, hall⟩ := hchars
        have htake := takeAlternative?_eq_some_iff.mpr ⟨(rfl : chars ++ taken.flatten = _), hall⟩
        rw [List.flatten_cons]
        apply findSome?_eq_some_of_sorted hfield.sorted hmem
        · rw [htake]
          dsimp only
          rw [hmore]
          rfl
        -- A way in front of this one is as wide, so it takes the same characters.
        · intro other hother hle y hy
          split at hy
          · cases hy
          · rename_i front behind htaken
            obtain ⟨happ, hall'⟩ := takeAlternative?_eq_some_iff.mp htaken
            have hbound := hfield.le_width other hother
            rw [hall.length_eq, hall'.length_eq] at hle
            rw [hall'.length_eq] at hbound
            obtain ⟨rfl, rfl⟩ := List.append_inj happ (by omega)
            rw [hmore] at hy
            exact (Option.some.inj hy).symm

theorem widestFirst_stampFields :
    List.Forall₂ WidestFirst [4, 2, 2, 2, 2, 2] stampFields := by
  unfold stampFields
  repeat' constructor
  all_goals decide

/-! ## The fields of a stamp -/

/-- A text in the seven parts that a stamp has. -/
structure StampCut where
  year : List Char
  month : List Char
  day : List Char
  hour : List Char
  minute : List Char
  second : List Char
  millisecond : List Char

namespace StampCut

/-- The text of the parts. -/
def text (f : StampCut) : List Char :=
  f.year ++ f.month ++ f.day ++ f.hour ++ f.minute ++ f.second ++ f.millisecond

/-- So many decimals of any script. -/
def Decimals (width : Nat) (chars : List Char) : Prop :=
  chars.length = width ∧ ∀ c ∈ chars, isDecimal c = true

/-- Two characters of this kind. -/
def IsPair (kind : Char → Char → Prop) (chars : List Char) : Prop :=
  ∃ c d, chars = [c, d] ∧ kind c d

/-- From `01` to `12`, in ASCII. -/
def Month (c d : Char) : Prop :=
  (c = '1' ∧ '0' ≤ d ∧ d ≤ '2') ∨ (c = '0' ∧ '1' ≤ d ∧ d ≤ '9')

/-- From `01` to `31`; after a one or a two any decimal. -/
def Day (c d : Char) : Prop :=
  (c = '3' ∧ '0' ≤ d ∧ d ≤ '1') ∨ (('1' ≤ c ∧ c ≤ '2') ∧ isDecimal d = true) ∨
    (c = '0' ∧ '1' ≤ d ∧ d ≤ '9')

/-- From `00` to `23`; after a zero or a one any decimal. -/
def Hour (c d : Char) : Prop :=
  (c = '2' ∧ '0' ≤ d ∧ d ≤ '3') ∨ (('0' ≤ c ∧ c ≤ '1') ∧ isDecimal d = true)

/-- From `00` to `59`, the last a decimal of any script. -/
def Sixtieth (c d : Char) : Prop := ('0' ≤ c ∧ c ≤ '5') ∧ isDecimal d = true

/-- A leap second: `60` or `61`. -/
def LeapSecond (c d : Char) : Prop := c = '6' ∧ '0' ≤ d ∧ d ≤ '1'

/-- Each part has its full width and is written as its kind is. -/
structure Written (f : StampCut) : Prop where
  year : Decimals 4 f.year
  month : IsPair Month f.month
  day : IsPair Day f.day
  hour : IsPair Hour f.hour
  minute : IsPair Sixtieth f.minute
  second : IsPair Sixtieth f.second
  millisecond : Decimals 3 f.millisecond

/-- The parts read as the numbers of a moment without offset. -/
structure Tells (f : StampCut) (m : Moment) : Prop where
  year : m.date.year = decimalsValue f.year
  month : m.date.month = decimalsValue f.month
  day : m.date.day = decimalsValue f.day
  hour : m.time.hour = decimalsValue f.hour
  minute : m.time.minute = decimalsValue f.minute
  second : m.time.second = decimalsValue f.second
  microsecond : m.time.microsecond = decimalsValue f.millisecond * 1000
  offset : m.offset = none

end StampCut

/-! ## The fields in their full width -/

theorem fits_year {chars : List Char} :
    chars.length = 4 ∧ Fits stampFields[0] chars ↔ StampCut.Decimals 4 chars := by
  unfold StampCut.Decimals
  rw [and_congr_right_iff]
  intro hlen
  obtain ⟨a, b, c, d, rfl⟩ := List.length_eq_four.mp hlen
  simp [Fits, stampFields]

/-- A field of two characters, by what its ways of that width are. -/
theorem fits_pair_iff {field : List Alternative} {kind : Char → Char → Prop} {chars : List Char}
    (h : ∀ c d, Fits field [c, d] ↔ kind c d) :
    chars.length = 2 ∧ Fits field chars ↔ StampCut.IsPair kind chars := by
  constructor
  · rintro ⟨hlen, hfits⟩
    obtain ⟨c, d, rfl⟩ := List.length_eq_two.mp hlen
    exact ⟨c, d, rfl, (h c d).mp hfits⟩
  · rintro ⟨c, d, rfl, hkind⟩
    exact ⟨rfl, (h c d).mpr hkind⟩

section

variable (c d : Char)

theorem fits_month : Fits stampFields[1] [c, d] ↔ StampCut.Month c d := by
  simp [Fits, stampFields, exactly, between, StampCut.Month]

theorem fits_day : Fits stampFields[2] [c, d] ↔ StampCut.Day c d := by
  simp [Fits, stampFields, exactly, between, StampCut.Day]

theorem fits_hour : Fits stampFields[3] [c, d] ↔ StampCut.Hour c d := by
  simp [Fits, stampFields, exactly, between, StampCut.Hour]

theorem fits_minute : Fits stampFields[4] [c, d] ↔ StampCut.Sixtieth c d := by
  simp [Fits, stampFields, between, StampCut.Sixtieth]

theorem fits_second :
    Fits stampFields[5] [c, d] ↔ StampCut.LeapSecond c d ∨ StampCut.Sixtieth c d := by
  simp [Fits, stampFields, exactly, between, StampCut.LeapSecond, StampCut.Sixtieth]

end

/-- Fourteen characters in fields of full width. -/
theorem fits_stampFields_iff {year month day hour minute second : List Char} :
    ([year, month, day, hour, minute, second].map List.length = [4, 2, 2, 2, 2, 2] ∧
      List.Forall₂ Fits stampFields [year, month, day, hour, minute, second]) ↔
    StampCut.Decimals 4 year ∧ StampCut.IsPair StampCut.Month month ∧
      StampCut.IsPair StampCut.Day day ∧ StampCut.IsPair StampCut.Hour hour ∧
      StampCut.IsPair StampCut.Sixtieth minute ∧
      StampCut.IsPair (fun c d => StampCut.LeapSecond c d ∨ StampCut.Sixtieth c d) second := by
  have hfits : List.Forall₂ Fits stampFields [year, month, day, hour, minute, second] ↔
      Fits stampFields[0] year ∧ Fits stampFields[1] month ∧ Fits stampFields[2] day ∧
        Fits stampFields[3] hour ∧ Fits stampFields[4] minute ∧ Fits stampFields[5] second := by
    show List.Forall₂ Fits [stampFields[0], stampFields[1], stampFields[2], stampFields[3],
      stampFields[4], stampFields[5]] _ ↔ _
    simp only [List.forall₂_cons, List.forall₂_nil_left_iff, and_true]
  rw [hfits, ← fits_year, ← fits_pair_iff fits_month, ← fits_pair_iff fits_day,
    ← fits_pair_iff fits_hour, ← fits_pair_iff fits_minute, ← fits_pair_iff fits_second]
  simp only [List.map_cons, List.map_nil, List.cons.injEq, and_true]
  tauto

/-! ## Values -/

/-- ASCII digits are worth as much among the decimals of all scripts. -/
theorem decimalsValue_ascii {digits : List Char} (h : ∀ c ∈ digits, c.isDigit = true) :
    decimalsValue digits = naturalValue digits := by
  unfold decimalsValue naturalValue
  rw [Nat.ofDigitChars_eq_foldl]
  apply List.foldl_ext
  intro n c hc
  rw [decimalValue?_ascii (h c hc)]
  rfl

theorem sixty_le_of_leapSecond {c d : Char} (h : StampCut.LeapSecond c d) :
    60 ≤ decimalsValue [c, d] := by
  obtain ⟨rfl, -, -⟩ := h
  simp [decimalsValue, decimalValue?_ascii]

/-! ## Classes by code point -/

theorem char_le_iff_toNat {c d : Char} : c ≤ d ↔ c.toNat ≤ d.toNat := by
  rw [← not_lt, char_lt_iff_toNat, not_lt]

namespace StampCut

section

variable {c d : Char}

theorem month_iff_toNat : Month c d ↔
    (c.toNat = 49 ∧ 48 ≤ d.toNat ∧ d.toNat ≤ 50) ∨
      (c.toNat = 48 ∧ 49 ≤ d.toNat ∧ d.toNat ≤ 57) := by
  simp [Month, char_le_iff_toNat, ← Char.toNat_inj]

theorem day_iff_toNat : Day c d ↔
    (c.toNat = 51 ∧ 48 ≤ d.toNat ∧ d.toNat ≤ 49) ∨
      ((49 ≤ c.toNat ∧ c.toNat ≤ 50) ∧ isDecimal d = true) ∨
      (c.toNat = 48 ∧ 49 ≤ d.toNat ∧ d.toNat ≤ 57) := by
  simp [Day, char_le_iff_toNat, ← Char.toNat_inj]

theorem hour_iff_toNat : Hour c d ↔
    (c.toNat = 50 ∧ 48 ≤ d.toNat ∧ d.toNat ≤ 51) ∨
      ((48 ≤ c.toNat ∧ c.toNat ≤ 49) ∧ isDecimal d = true) := by
  simp [Hour, char_le_iff_toNat, ← Char.toNat_inj]

theorem sixtieth_iff_toNat : Sixtieth c d ↔
    (48 ≤ c.toNat ∧ c.toNat ≤ 53) ∧ isDecimal d = true := by
  simp [Sixtieth, char_le_iff_toNat]

theorem isDecimal_of_toNat (h : 48 ≤ c.toNat ∧ c.toNat ≤ 57) : isDecimal c = true := by
  rw [isDecimal, decimalValue?_ascii (isDigit_iff_toNat.mpr h)]
  rfl

theorem Month.isDecimal (h : Month c d) : isDecimal c = true ∧ isDecimal d = true := by
  rw [month_iff_toNat] at h
  exact ⟨isDecimal_of_toNat (by omega), isDecimal_of_toNat (by omega)⟩

theorem Day.isDecimal (h : Day c d) : isDecimal c = true ∧ isDecimal d = true := by
  rw [day_iff_toNat] at h
  rcases h with h | ⟨h, hd⟩ | h
  · exact ⟨isDecimal_of_toNat (by omega), isDecimal_of_toNat (by omega)⟩
  · exact ⟨isDecimal_of_toNat (by omega), hd⟩
  · exact ⟨isDecimal_of_toNat (by omega), isDecimal_of_toNat (by omega)⟩

theorem Hour.isDecimal (h : Hour c d) : isDecimal c = true ∧ isDecimal d = true := by
  rw [hour_iff_toNat] at h
  rcases h with h | ⟨h, hd⟩
  · exact ⟨isDecimal_of_toNat (by omega), isDecimal_of_toNat (by omega)⟩
  · exact ⟨isDecimal_of_toNat (by omega), hd⟩

theorem Sixtieth.isDecimal (h : Sixtieth c d) : isDecimal c = true ∧ isDecimal d = true := by
  rw [sixtieth_iff_toNat] at h
  exact ⟨isDecimal_of_toNat (by omega), h.2⟩

end

/-- Two characters of a kind of decimals are two decimals. -/
theorem IsPair.decimals {kind : Char → Char → Prop} {chars : List Char} (h : IsPair kind chars)
    (hkind : ∀ c d, kind c d → isDecimal c = true ∧ isDecimal d = true) : Decimals 2 chars := by
  obtain ⟨c, d, rfl, hcd⟩ := h
  obtain ⟨hc, hd⟩ := hkind c d hcd
  refine ⟨rfl, fun e he => ?_⟩
  rcases List.mem_pair.mp he with rfl | rfl
  · exact hc
  · exact hd

theorem Decimals.append {m n : Nat} {front back : List Char} (h : Decimals m front)
    (h' : Decimals n back) : Decimals (m + n) (front ++ back) := by
  refine ⟨by rw [List.length_append, h.1, h'.1], fun c hc => ?_⟩
  rcases List.mem_append.mp hc with hc | hc
  · exact h.2 c hc
  · exact h'.2 c hc

/-- The fields before the milliseconds. -/
def front (f : StampCut) : List Char :=
  f.year ++ f.month ++ f.day ++ f.hour ++ f.minute ++ f.second

theorem text_eq (f : StampCut) : f.text = f.front ++ f.millisecond := rfl

theorem Written.decimals_front {f : StampCut} (h : f.Written) : Decimals 14 f.front :=
  ((((h.year.append (h.month.decimals fun _ _ => Month.isDecimal)).append
    (h.day.decimals fun _ _ => Day.isDecimal)).append
    (h.hour.decimals fun _ _ => Hour.isDecimal)).append
    (h.minute.decimals fun _ _ => Sixtieth.isDecimal)).append
    (h.second.decimals fun _ _ => Sixtieth.isDecimal)

end StampCut

/-! ## Reading -/

namespace StampCut

/-- Each check that a text passes tells something about its parts. -/
theorem exists_of_readStampParts {front back : List Char} {m : Moment} (hf : front.length = 14)
    (hb : back.length = 3) (h : readStampParts front back = .ok m) :
    ∃ f : StampCut, f.text = front ++ back ∧ f.Written ∧ f.Tells m := by
  unfold readStampParts at h
  split at h
  case h_2 => cases h
  rename_i year month day hour minute second rest htake
  split at h
  · cases h
  rename_i hrest
  obtain rfl : rest = [] := not_not.mp hrest
  obtain ⟨hflat, hwidths, hfits⟩ := (takeFields?_full_iff widestFirst_stampFields hf).mp htake
  obtain ⟨hyear, hmonth, hday, hhour, hminute, hsecond⟩ :=
    fits_stampFields_iff.mp ⟨hwidths, hfits⟩
  split at h
  · cases h
  split at h
  · cases h
  rename_i date hdate
  split at h
  · cases h
  rename_i hleap
  split at h
  · cases h
  rename_i hback
  split at h
  · cases h
  rename_i time htime
  cases h
  obtain ⟨y, mo, d⟩ := Date.of?_eq_some.mp hdate
  obtain ⟨hh, mi, s, us⟩ := TimeOfDay.of?_eq_some.mp htime
  refine ⟨⟨year, month, day, hour, minute, second, back⟩, ?_,
    ⟨hyear, hmonth, hday, hhour, hminute, ?_, hb, ?_⟩, ⟨y, mo, d, hh, mi, s, us, rfl⟩⟩
  · simp [text, ← hflat]
  · obtain ⟨c, d, rfl, hkind⟩ := hsecond
    exact ⟨c, d, rfl, hkind.resolve_left fun hc => hleap (sixty_le_of_leapSecond hc)⟩
  · simpa using hback

theorem readStampParts_eq_ok {f : StampCut} {m : Moment} (hw : f.Written) (ht : f.Tells m) :
    readStampParts f.front f.millisecond = .ok m := by
  obtain ⟨sc, sd, hsecond, hkind⟩ := hw.second
  obtain ⟨hwidths, hfits⟩ := fits_stampFields_iff.mpr
    ⟨hw.year, hw.month, hw.day, hw.hour, hw.minute, sc, sd, hsecond, .inr hkind⟩
  have htake : takeFields? stampFields f.front =
      some ([f.year, f.month, f.day, f.hour, f.minute, f.second], []) :=
    (takeFields?_full_iff widestFirst_stampFields hw.decimals_front.1).mpr
      ⟨by simp [front], hwidths, hfits⟩
  have hyear := m.date.valid.1.1
  have hsec := m.time.second_lt
  have hback : (! f.millisecond.all isDecimal) = false := by simpa using hw.millisecond.2
  unfold readStampParts
  rw [htake]
  dsimp only
  rw [if_neg (by simp), if_neg (by rw [← ht.year]; omega),
    Date.of?_eq_some.mpr ⟨ht.year, ht.month, ht.day⟩]
  dsimp only
  rw [if_neg (by rw [← ht.second]; omega), hback, if_neg (by simp),
    TimeOfDay.of?_eq_some.mpr ⟨ht.hour, ht.minute, ht.second, ht.microsecond⟩]
  dsimp only
  rw [← ht.offset]

end StampCut

/-- A text is the stamp of a moment iff it falls into the seven fields in their full width, each
written as its kind is, and the moment has just these numbers: the shorter ways to write a field
never lead to a stamp. -/
theorem readStamp_eq_ok_iff {text : String} {m : Moment} :
    readStamp text = .ok m ↔ ∃ f : StampCut, f.text = text.toList ∧ f.Written ∧ f.Tells m := by
  unfold readStamp
  constructor
  · intro h
    split at h
    case isFalse => cases h
    rename_i hdigits
    have hlen : text.toList.length = 17 := hdigits.1
    obtain ⟨f, htext, hw, ht⟩ := StampCut.exists_of_readStampParts
      (by rw [List.length_take]; omega) (by rw [List.length_drop]; omega) h
    exact ⟨f, by rw [htext, List.take_append_drop], hw, ht⟩
  · rintro ⟨f, htext, hw, ht⟩
    have hfront := hw.decimals_front
    have hall := hfront.append hw.millisecond
    rw [← StampCut.text_eq, htext] at hall
    have hdigits : text.toList.all Text.isDigit = true :=
      List.all_eq_true.mpr fun c hc => isDigit_of_isDecimal (hall.2 c hc)
    rw [if_pos ⟨hall.1, hdigits⟩, ← htext, StampCut.text_eq, ← hfront.1, List.take_left,
      List.drop_left]
    exact StampCut.readStampParts_eq_ok hw ht

end Sequencer
