import Mathlib.Data.List.Induction
import Sequencer.Proofs.Stamps

/-!
# Stamps in every script

`readStamp_eq_ok_iff` says which moment a text stands for. Here is said when there is one: a text in
seven fields of full width always tells a time of day, so it is a stamp iff its first three fields
tell a date (`exists_readStamp_iff`). The shorter ways to write a field are there for nothing: in
fourteen characters cut to the end none is taken (`length_of_cut`), and where one is taken
something is left over (`readStamp_of_short`).
-/

namespace Sequencer

open Text

/-! ## What decimals are worth -/

/-- What a character is worth, zero if it is no decimal. -/
def digitWorth (c : Char) : Nat := (decimalValue? c).getD 0

theorem digitWorth_lt (c : Char) : digitWorth c < 10 := by
  unfold digitWorth decimalValue?
  cases hfind : decimalZeros.find? fun z => z ≤ c.toNat && c.toNat < z + 10 with
  | none => simp
  | some z =>
    have hz := List.find?_some hfind
    simp at hz
    simp
    omega

theorem digitWorth_ascii {c : Char} (h : 48 ≤ c.toNat ∧ c.toNat ≤ 57) :
    digitWorth c = c.toNat - 48 := by
  rw [digitWorth, decimalValue?_ascii (isDigit_iff_toNat.mpr h)]
  rfl

theorem decimalsValue_concat (chars : List Char) (c : Char) :
    decimalsValue (chars ++ [c]) = 10 * decimalsValue chars + digitWorth c := by
  simp [decimalsValue, digitWorth]

theorem decimalsValue_pair (c d : Char) :
    decimalsValue [c, d] = 10 * digitWorth c + digitWorth d := by
  simp [decimalsValue, digitWorth]

theorem decimalsValue_lt (chars : List Char) : decimalsValue chars < 10 ^ chars.length := by
  induction chars using List.reverseRecOn with
  | nil => simp [decimalsValue]
  | append_singleton chars c ih =>
    have hc := digitWorth_lt c
    rw [decimalsValue_concat, List.length_append, List.length_singleton, Nat.pow_succ]
    omega

namespace StampCut

section

variable {c d : Char}

theorem Hour.value_lt (h : Hour c d) : decimalsValue [c, d] < 24 := by
  have hd := digitWorth_lt d
  rw [decimalsValue_pair]
  rw [hour_iff_toNat] at h
  rcases h with h | ⟨h, -⟩
  · have hc := digitWorth_ascii (c := c) (by omega)
    have hd := digitWorth_ascii (c := d) (by omega)
    omega
  · have hc := digitWorth_ascii (c := c) (by omega)
    omega

theorem Sixtieth.value_lt (h : Sixtieth c d) : decimalsValue [c, d] < 60 := by
  have hd := digitWorth_lt d
  rw [decimalsValue_pair]
  rw [sixtieth_iff_toNat] at h
  have hc := digitWorth_ascii (c := c) (by omega)
  omega

theorem IsPair.value_lt {kind : Char → Char → Prop} {chars : List Char} {bound : Nat}
    (h : IsPair kind chars) (hkind : ∀ c d, kind c d → decimalsValue [c, d] < bound) :
    decimalsValue chars < bound := by
  obtain ⟨c, d, rfl, hcd⟩ := h
  exact hkind c d hcd

end

/-- The first three fields tell a date that exists. -/
def Dated (f : StampCut) : Prop :=
  DateExists (decimalsValue f.year) (decimalsValue f.month) (decimalsValue f.day)

/-- Fields of full width with a date tell a moment: the time of day cannot go wrong. -/
theorem Written.exists_tells_iff {f : StampCut} (h : f.Written) :
    (∃ m, f.Tells m) ↔ f.Dated := by
  constructor
  · rintro ⟨m, ht⟩
    have hvalid := m.date.valid
    rw [ht.year, ht.month, ht.day] at hvalid
    exact hvalid
  · intro hdated
    have hmillisecond : decimalsValue f.millisecond < 1000 := by
      have hlt := decimalsValue_lt f.millisecond
      rw [h.millisecond.1] at hlt
      exact hlt
    exact ⟨{
      date := ⟨_, _, _, hdated⟩
      time := {
        hour := decimalsValue f.hour
        minute := decimalsValue f.minute
        second := decimalsValue f.second
        microsecond := decimalsValue f.millisecond * 1000
        hour_lt := h.hour.value_lt fun _ _ => Hour.value_lt
        minute_lt := h.minute.value_lt fun _ _ => Sixtieth.value_lt
        second_lt := h.second.value_lt fun _ _ => Sixtieth.value_lt
        microsecond_lt := by omega }
      offset := none }, rfl, rfl, rfl, rfl, rfl, rfl, rfl, rfl⟩

end StampCut

theorem exists_readStamp_iff {text : String} :
    (∃ m, readStamp text = .ok m) ↔
      ∃ f : StampCut, f.text = text.toList ∧ f.Written ∧ f.Dated := by
  simp only [readStamp_eq_ok_iff]
  constructor
  · rintro ⟨m, f, htext, hw, ht⟩
    exact ⟨f, htext, hw, hw.exists_tells_iff.mp ⟨m, ht⟩⟩
  · rintro ⟨f, htext, hw, hdated⟩
    obtain ⟨m, ht⟩ := hw.exists_tells_iff.mpr hdated
    exact ⟨m, f, htext, hw, ht⟩

/-! ## The shorter ways to write a field -/

/-- Seventeen characters that stand for digits in some way. -/
def IsDigits (text : String) : Prop :=
  text.length = stampWidth ∧ text.toList.all Text.isDigit = true

instance (text : String) : Decidable (IsDigits text) := by
  unfold IsDigits
  infer_instance

theorem readStamp_eq (text : String) : readStamp text =
    if IsDigits text then readStampParts (text.toList.take 14) (text.toList.drop 14)
    else .error (.notDigits text) := rfl

/-- Fourteen characters that are cut to the end are cut into fields of full width. -/
theorem length_of_cut {front : List Char} (hlen : front.length = 14) {taken : List (List Char)}
    (hfits : List.Forall₂ Fits stampFields taken) (hflat : taken.flatten = front) :
    taken.map List.length = [4, 2, 2, 2, 2, 2] := by
  refine (length_eq_of_fits widestFirst_stampFields hfits).2 ?_
  rw [hflat, hlen]
  rfl

/-- However fourteen characters are cut, a field in a shorter form leaves something over. -/
theorem rest_ne_nil_of_short {front rest : List Char} (hlen : front.length = 14)
    {taken : List (List Char)} (hfits : List.Forall₂ Fits stampFields taken)
    (hflat : taken.flatten ++ rest = front) (hshort : ∃ chars ∈ taken, chars.length = 1) :
    rest ≠ [] := by
  rintro rfl
  rw [List.append_nil] at hflat
  have hwidths := length_of_cut hlen hfits hflat
  obtain ⟨chars, hmem, hone⟩ := hshort
  have hwidth := List.mem_map_of_mem (f := List.length) hmem
  rw [hwidths, hone] at hwidth
  simp at hwidth

theorem exists_six_of_fits {taken : List (List Char)} (h : List.Forall₂ Fits stampFields taken) :
    ∃ year month day hour minute second, taken = [year, month, day, hour, minute, second] := by
  have hlen : taken.length = 6 := h.length_eq.symm
  match taken, hlen with
  | [year, month, day, hour, minute, second], _ =>
    exact ⟨year, month, day, hour, minute, second, rfl⟩

theorem readStampParts_of_leftOver {front back rest : List Char} {taken : List (List Char)}
    (htake : takeFields? stampFields front = some (taken, rest)) (hrest : rest ≠ []) :
    readStampParts front back = .error (.leftOver (String.ofList rest)) := by
  obtain ⟨year, month, day, hour, minute, second, rfl⟩ :=
    exists_six_of_fits (fits_of_takeFields? htake)
  rw [readStampParts, htake]
  dsimp only
  rw [if_pos hrest]

theorem IsDigits.length_front {text : String} (h : IsDigits text) :
    (text.toList.take 14).length = 14 := by
  have hlength : text.toList.length = 17 := h.1
  rw [List.length_take]
  omega

/-- A reading that takes a shorter form fails over what is left. -/
theorem readStamp_of_short {text : String} {taken : List (List Char)} {rest : List Char}
    (htake : takeFields? stampFields (text.toList.take 14) = some (taken, rest))
    (hshort : ∃ chars ∈ taken, chars.length = 1) :
    readStamp text = .error
      (if IsDigits text then .leftOver (String.ofList rest) else .notDigits text) := by
  rw [readStamp_eq]
  by_cases hdigits : IsDigits text
  · have hrest := rest_ne_nil_of_short hdigits.length_front (fits_of_takeFields? htake)
      (flatten_append_of_takeFields? htake) hshort
    rw [if_pos hdigits, if_pos hdigits, readStampParts_of_leftOver htake hrest]
  · rw [if_neg hdigits, if_neg hdigits]

/-- **Reading a stamp.** A text is read as a moment iff it falls into the seven fields of a stamp in
their full width, each written as its kind is in any script that the kind admits, and the first
three tell a date; the moment then has the numbers of the fields and no offset. Every other text
fails. No way to cut the fourteen characters of date and time to the end takes a field in a shorter
form, and a reading that takes one fails over what it leaves. -/
theorem stamp_read_iff (text : String) :
    (∀ m, readStamp text = .ok m ↔
      ∃ f : StampCut, f.text = text.toList ∧ f.Written ∧ f.Tells m) ∧
    ((∃ m, readStamp text = .ok m) ↔
      ∃ f : StampCut, f.text = text.toList ∧ f.Written ∧ f.Dated) ∧
    ((¬ ∃ f : StampCut, f.text = text.toList ∧ f.Written ∧ f.Dated) →
      ∃ fault, readStamp text = .error fault) ∧
    (IsDigits text → ∀ taken rest, List.Forall₂ Fits stampFields taken →
      taken.flatten ++ rest = text.toList.take 14 → (∃ chars ∈ taken, chars.length = 1) →
        rest ≠ []) ∧
    ∀ taken rest, takeFields? stampFields (text.toList.take 14) = some (taken, rest) →
      (∃ chars ∈ taken, chars.length = 1) →
        readStamp text = .error
          (if IsDigits text then .leftOver (String.ofList rest) else .notDigits text) := by
  refine ⟨fun m => readStamp_eq_ok_iff, exists_readStamp_iff, ?_, ?_, ?_⟩
  · intro hnone
    cases hread : readStamp text with
    | ok m => exact absurd (exists_readStamp_iff.mp ⟨m, hread⟩) hnone
    | error fault => exact ⟨fault, rfl⟩
  · intro hdigits taken rest hfits hflat hshort
    exact rest_ne_nil_of_short hdigits.length_front hfits hflat hshort
  · intro taken rest htake hshort
    exact readStamp_of_short htake hshort

end Sequencer
