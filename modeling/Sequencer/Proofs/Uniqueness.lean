import Sequencer.Generator.Summary
import Sequencer.Proofs.Ledger

/-!
# Which identifiers repeat

Under the invariant `Balanced` the counter segment of a success is its number modulo one above the
ceiling, and the three parts of an identifier can be read off it again. So two identifiers are
equal iff all three parts are (`Balanced.identifier_eq_iff`); as many successes in a row as there
are segments never share one, and where stamp and suffix stand still the identifiers repeat with
exactly that period.
-/

namespace Sequencer

/-! ## Texts that repeat with a period -/

/-- Two texts of the list are equal iff their places differ by a multiple of the period. -/
def HasPeriod (period : Nat) (texts : List String) : Prop :=
  ∀ (i j : Nat) (s t : String), texts[i]? = some s → texts[j]? = some t →
    (s = t ↔ (period : Int) ∣ (i : Int) - j)

theorem HasPeriod.tail {period : Nat} {text : String} {rest : List String}
    (h : HasPeriod period (text :: rest)) : HasPeriod period rest := by
  intro i j s t hi hj
  rw [h (i + 1) (j + 1) s t hi hj]
  have hshift : ((i + 1 : Nat) : Int) - (j + 1 : Nat) = (i : Int) - j := by omega
  rw [hshift]

/-- The first text comes again as soon as the period is over. -/
theorem HasPeriod.mem_iff {period : Nat} {text : String} {rest : List String} (hp : 0 < period)
    (h : HasPeriod period (text :: rest)) : text ∈ rest ↔ period ≤ rest.length := by
  constructor
  · intro hmem
    obtain ⟨j, hj⟩ := List.mem_iff_getElem?.mp hmem
    have hlt := (List.getElem?_eq_some_iff.mp hj).1
    have hdvd := (h (j + 1) 0 text text hj rfl).mp rfl
    have hle := Int.le_of_dvd (by omega) hdvd
    omega
  · intro hle
    have hlt : period - 1 < rest.length := by omega
    have hat : (text :: rest)[period]? = some rest[period - 1] := by
      rw [List.getElem?_cons, if_neg (by omega), List.getElem?_eq_getElem hlt]
    have heq : rest[period - 1] = text := by
      apply (h period 0 _ _ hat rfl).mpr
      exact ⟨1, by omega⟩
    rw [← heq]
    exact List.getElem_mem hlt

theorem HasPeriod.distinctCount {period : Nat} (hp : 0 < period) {texts : List String}
    (h : HasPeriod period texts) :
    Sequencer.distinctCount texts = min texts.length period := by
  induction texts with
  | nil => simp [Sequencer.distinctCount]
  | cons text rest ih =>
    have hrest := ih h.tail
    unfold Sequencer.distinctCount
    rw [hrest, List.length_cons]
    split
    · rename_i hmem
      have hle := (h.mem_iff hp).mp hmem
      omega
    · rename_i hmem
      have hlt : ¬ period ≤ rest.length := fun hle => hmem ((h.mem_iff hp).mpr hle)
      omega

/-! ## Equal identifiers -/

theorem Entry.MadeOf.identifier_eq_iff {ceiling v w : Int} {d e : Entry}
    (hd : d.MadeOf ceiling v) (he : e.MadeOf ceiling w) (hv : 0 ≤ v ∧ v ≤ ceiling)
    (hw : 0 ≤ w ∧ w ≤ ceiling) :
    d.identifier = e.identifier ↔
      v = w ∧ d.reading.stamp = e.reading.stamp ∧ d.answer.suffix = e.answer.suffix := by
  obtain ⟨stamp, suffix, hs, hr, hid⟩ := hd
  obtain ⟨stamp', suffix', hs', hr', hid'⟩ := he
  rw [hid, hid', hs, hs', hr, hr', Except.ok.injEq, Except.ok.injEq]
  exact Identifier.spelled_inj (ClockAnswer.length_of_stamp hs) (ClockAnswer.length_of_stamp hs')
    hv.1 hw.1 (.inr hv.2) (.inr hw.2)

/-- Two successes have the same segment iff their numbers differ by a multiple of the number of
segments. -/
theorem segment_eq_iff (base modulus : Int) (i j : Nat) :
    (base + i) % modulus = (base + j) % modulus ↔ modulus ∣ (i : Int) - j := by
  rw [Int.emod_eq_emod_iff_emod_sub_eq_zero, ← Int.dvd_iff_emod_eq_zero]
  have hshift : base + (i : Int) - (base + j) = (i : Int) - j := by omega
  rw [hshift]

/-- What is known of the identifiers since the value was last set. -/
structure Ledger.Distinct (ceiling : Int) (l : Ledger) : Prop where
  /-- Every success read a stamp of full width and drew a suffix. -/
  answered : ∀ e ∈ l.entries, ∃ stamp suffix, e.reading.stamp = .ok stamp ∧
    stamp.length = stampWidth ∧ e.answer.suffix = .ok suffix
  collide : ∀ (i j : Nat) (d e : Entry), l.entries[i]? = some d → l.entries[j]? = some e →
    (d.identifier = e.identifier ↔ (ceiling + 1) ∣ (i : Int) - j ∧
      d.reading.stamp = e.reading.stamp ∧ d.answer.suffix = e.answer.suffix)
  window : ∀ first : Nat,
    (((l.entries.drop first).take (ceiling + 1).toNat).map Entry.identifier).Nodup
  /-- A clock and a random source that stand still. -/
  frozen : ∀ (stamp : List Char) (suffix : Nat),
    (∀ e ∈ l.entries, e.reading.stamp = .ok stamp ∧ e.answer.suffix = .ok suffix) →
      distinctCount (l.entries.map Entry.identifier) =
        min l.entries.length (ceiling + 1).toNat

namespace Ledger.Balanced

variable {ceiling : Int} {l : Ledger}

theorem identifier_eq_iff (h : l.Balanced ceiling) {i j : Nat} {d e : Entry}
    (hi : l.entries[i]? = some d) (hj : l.entries[j]? = some e) :
    d.identifier = e.identifier ↔ (ceiling + 1) ∣ (i : Int) - j ∧
      d.reading.stamp = e.reading.stamp ∧ d.answer.suffix = e.answer.suffix := by
  rw [(h.made i d hi).identifier_eq_iff (h.made j e hj) (emod_range h.ceiling_pos _)
    (emod_range h.ceiling_pos _), segment_eq_iff]

/-- As many successes in a row as there are segments differ pairwise. -/
theorem nodup_window (h : l.Balanced ceiling) (first : Nat) :
    (((l.entries.drop first).take (ceiling + 1).toNat).map Entry.identifier).Nodup := by
  apply List.pairwise_map.mpr
  apply List.pairwise_iff_getElem.mpr
  intro i j hi hj hij heq
  rw [List.length_take] at hi hj
  rw [List.getElem_take, List.getElem_take, List.getElem_drop, List.getElem_drop] at heq
  have hdvd := ((h.identifier_eq_iff (List.getElem?_eq_getElem _)
    (List.getElem?_eq_getElem _)).mp heq.symm).1
  -- The two numbers are less than the period apart.
  have hle := Int.le_of_dvd (by omega) hdvd
  omega

/-- Where stamp and suffix stand still, only the segment tells successes apart. -/
theorem hasPeriod (h : l.Balanced ceiling) {stamp : List Char} {suffix : Nat}
    (hsame : ∀ e ∈ l.entries, e.reading.stamp = .ok stamp ∧ e.answer.suffix = .ok suffix) :
    HasPeriod (ceiling + 1).toNat (l.entries.map Entry.identifier) := by
  have hpos := h.ceiling_pos
  intro i j s t hi hj
  rw [List.getElem?_map, Option.map_eq_some_iff] at hi hj
  obtain ⟨d, hd, rfl⟩ := hi
  obtain ⟨e, he, rfl⟩ := hj
  obtain ⟨hds, hdr⟩ := hsame d (List.mem_of_getElem? hd)
  obtain ⟨hes, her⟩ := hsame e (List.mem_of_getElem? he)
  rw [h.identifier_eq_iff hd he, hds, hes, hdr, her, Int.toNat_of_nonneg (by omega)]
  exact ⟨fun hall => hall.1, fun hdvd => ⟨hdvd, rfl, rfl⟩⟩

theorem distinct (h : l.Balanced ceiling) : l.Distinct ceiling := by
  have hpos := h.ceiling_pos
  constructor
  case answered =>
    intro e he
    obtain ⟨k, hk⟩ := List.mem_iff_getElem?.mp he
    obtain ⟨stamp, suffix, hs, hr, -⟩ := h.made k e hk
    exact ⟨stamp, suffix, hs, ClockAnswer.length_of_stamp hs, hr⟩
  case collide => exact fun i j d e hi hj => h.identifier_eq_iff hi hj
  case window => exact h.nodup_window
  case frozen =>
    intro stamp suffix hsame
    rw [(h.hasPeriod hsame).distinctCount (by omega), List.length_map]

end Ledger.Balanced

/-- **Uniqueness.** On any counter that can be made, and whatever was done with the generator on
it, two identifiers since the value was last set are equal iff their numbers differ by a multiple
of one above the ceiling and they carry the same stamp and the same suffix. -/
theorem identifiers_distinct {max : Value} {start : Int} {c : Counter}
    (h : Counter.new max start = .ok c) (sources : Sources) (acts : List Act) :
    ((Ledger.opened ⟨c, sources⟩).run acts).Distinct c.ceiling := by
  have hsound := Counter.sound_of_new h
  exact ((Ledger.balanced_opened hsound.1 hsound.2 sources).run acts).distinct

/-- A clock that stands still under a ceiling of one: of three successes after a failure the third
repeats the first. -/
theorem identifiers_distinct_repeat :
    let moment : Moment := ⟨.mk 2026 7 17, .mk 12 0 0 0, none⟩
    let sources := Sources.new ⟨.raised "no time", [.reading moment]⟩
      (.scripted ⟨.value (.int 100000), []⟩)
    let l := (Ledger.opened ⟨⟨1, 1⟩, sources⟩).run [.generate, .generate, .generate, .generate]
    Counter.new (.int 1) 1 = .ok ⟨1, 1⟩ ∧ l.Distinct 1 ∧
      l.entries.map Entry.identifier = ["202607171200000001100000", "202607171200000000100000",
        "202607171200000001100000"] ∧ distinctCount (l.entries.map Entry.identifier) = 2 := by
  intro moment sources l
  have hnew : Counter.new (.int 1) 1 = .ok ⟨1, 1⟩ := rfl
  refine ⟨hnew, ?_, by decide +kernel, by decide +kernel⟩
  exact identifiers_distinct hnew sources _

end Sequencer
