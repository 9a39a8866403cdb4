import Mathlib.Data.Finset.Card
import Sequencer.Proofs.Accounts

/-!
# The account of any texts

An account counts the different texts, those that repeat another one and those that are not well
formed, whatever texts they are and in whatever order they come (`exact_summarise`). There is none
under a ceiling that is too long to be written (`no_summary_of_long_ceiling`). Of the identifiers of
a generator none is malformed, and two are the same text iff they carry the same
stamp, the same counter value and the same suffix: so as many of them are different as there are
different triples of these (`Ledger.Triples.distinctCount_eq`).
-/

namespace Sequencer

open Text
open Identifier (counterWidth spelled)

/-! ## Any texts -/

theorem distinctCount_le_length (texts : List String) : distinctCount texts ≤ texts.length := by
  rw [distinctCount_eq_length_dedup]
  exact (List.dedup_sublist texts).length_le

theorem distinctCount_of_perm {texts other : List String} (h : texts.Perm other) :
    distinctCount other = distinctCount texts := by
  rw [distinctCount_eq_length_dedup, distinctCount_eq_length_dedup]
  exact h.dedup.length_eq.symm

theorem distinctCount_concat (texts : List String) (text : String) :
    distinctCount (texts ++ [text]) =
      if text ∈ texts then distinctCount texts else distinctCount texts + 1 := by
  rw [distinctCount_of_perm (List.perm_append_singleton text texts).symm, distinctCount]

/-- The counts of an account are those of another one. -/
structure BatchSummary.SameCounts (s s' : BatchSummary) : Prop where
  total : s'.total = s.total
  unique : s'.unique = s.unique
  malformed : s'.malformed = s.malformed
  duplicates : s'.duplicates = s.duplicates

/-- The counts of an account are those of another one and one text more. The text is one of those
that were counted, or new; it is well formed, or not. -/
structure BatchSummary.OneMore (s s' : BatchSummary) (repeated wellFormed : Prop) : Prop where
  total : s'.total = s.total + 1
  ofRepeated : repeated → s'.unique = s.unique ∧ s'.duplicates = s.duplicates + 1
  ofNew : ¬ repeated → s'.unique = s.unique + 1 ∧ s'.duplicates = s.duplicates
  ofWellFormed : wellFormed → s'.malformed = s.malformed
  ofMalformed : ¬ wellFormed → s'.malformed = s.malformed + 1

/-- What is known of the account of some texts under a ceiling. -/
structure BatchSummary.Exact (ceiling : Int) (texts : List String) (s : BatchSummary) : Prop where
  total : s.total = texts.length
  adds_up : s.unique + s.duplicates = s.total
  duplicates_iff : s.duplicates = 0 ↔ texts.Nodup
  malformed_iff : s.malformed = 0 ↔
    ∀ text ∈ texts, IsNumeral (17 + counterWidth ceiling + 6) text.toList
  reordered : ∀ (other : List String) (threads perThread durationMs : Int), texts.Perm other →
    ∃ s', summarise other threads perThread ceiling (.ok durationMs) = .ok s' ∧ s.SameCounts s'
  /-- A ceiling that is too long to be written is no harm as long as there is no text. -/
  appended : ceiling.natAbs < 10 ^ maxDigits →
    ∀ (text : String) (threads perThread durationMs : Int),
      ∃ s', summarise (texts ++ [text]) threads perThread ceiling (.ok durationMs) = .ok s' ∧
        s.OneMore s' (text ∈ texts) (IsNumeral (17 + counterWidth ceiling + 6) text.toList)

section

variable (texts : List String) (threads perThread ceiling durationMs : Int)

theorem not_wellFormed_iff (text : String) :
    (! Identifier.wellFormed ceiling text) = true ↔
      ¬ IsNumeral (17 + counterWidth ceiling + 6) text.toList := by
  rw [Bool.not_eq_true', ← Bool.not_eq_true, Identifier.wellFormed_iff]
  rfl

theorem sameCounts_of_perm {other : List String} (threads' perThread' durationMs' : Int)
    (h : texts.Perm other) :
    (tally texts threads perThread ceiling durationMs).SameCounts
      (tally other threads' perThread' ceiling durationMs') where
  total := h.length_eq.symm
  unique := distinctCount_of_perm h
  malformed := (h.countP_eq _).symm
  duplicates := by
    show other.length - distinctCount other = texts.length - distinctCount texts
    rw [h.length_eq, distinctCount_of_perm h]

theorem oneMore_tally (text : String) (threads' perThread' durationMs' : Int) :
    (tally texts threads perThread ceiling durationMs).OneMore
      (tally (texts ++ [text]) threads' perThread' ceiling durationMs') (text ∈ texts)
      (IsNumeral (17 + counterWidth ceiling + 6) text.toList) := by
  have hle := distinctCount_le_length texts
  have hlength : (texts ++ [text]).length = texts.length + 1 := List.length_append
  have hmalformed :
      (tally (texts ++ [text]) threads' perThread' ceiling durationMs').malformed =
        (tally texts threads perThread ceiling durationMs).malformed +
          if (! Identifier.wellFormed ceiling text) = true then 1 else 0 := by
    show List.countP _ (texts ++ [text]) = _
    rw [List.countP_append, List.countP_singleton]
    rfl
  constructor
  case total => exact hlength
  case ofRepeated =>
    intro hmem
    have hcount := (distinctCount_concat texts text).trans (if_pos hmem)
    refine ⟨hcount, ?_⟩
    show (texts ++ [text]).length - distinctCount (texts ++ [text]) =
      texts.length - distinctCount texts + 1
    omega
  case ofNew =>
    intro hmem
    have hcount := (distinctCount_concat texts text).trans (if_neg hmem)
    refine ⟨hcount, ?_⟩
    show (texts ++ [text]).length - distinctCount (texts ++ [text]) =
      texts.length - distinctCount texts
    omega
  case ofWellFormed =>
    intro hnumeral
    rw [hmalformed, if_neg (by rw [not_wellFormed_iff]; exact not_not_intro hnumeral)]
    rfl
  case ofMalformed =>
    intro hnot
    rw [hmalformed, if_pos ((not_wellFormed_iff ceiling text).mpr hnot)]

/-- Texts are summed up if there are none, or the ceiling can be written. -/
theorem summarise_eq_tally (h : texts = [] ∨ ceiling.natAbs < 10 ^ maxDigits) :
    summarise texts threads perThread ceiling (.ok durationMs) =
      .ok (tally texts threads perThread ceiling durationMs) := by
  unfold summarise
  rw [if_neg]
  rintro ⟨hne, hlong⟩
  exact Nat.not_lt.mpr (isLong_iff.mp hlong) (h.resolve_left hne)

/-- The account of any texts is exact: nothing is asked of them, and of the ceiling only that it can
be written. -/
theorem exact_summarise (h : texts = [] ∨ ceiling.natAbs < 10 ^ maxDigits) :
    ∃ s, summarise texts threads perThread ceiling (.ok durationMs) = .ok s ∧
      s.Exact ceiling texts := by
  refine ⟨_, summarise_eq_tally texts threads perThread ceiling durationMs h, ?_⟩
  constructor
  case total => rfl
  case adds_up => exact Nat.add_sub_of_le (distinctCount_le_length texts)
  case duplicates_iff =>
    have hle := distinctCount_le_length texts
    show texts.length - distinctCount texts = 0 ↔ _
    rw [← length_dedup_eq_iff, ← distinctCount_eq_length_dedup]
    omega
  case malformed_iff =>
    show List.countP _ texts = 0 ↔ _
    rw [List.countP_eq_zero]
    simp only [not_wellFormed_iff, not_not]
  case reordered =>
    intro other threads' perThread' durationMs' hperm
    have hother : other = [] ∨ ceiling.natAbs < 10 ^ maxDigits :=
      h.imp_left fun hnil => (hnil ▸ hperm).symm.eq_nil
    exact ⟨_, summarise_eq_tally _ _ _ _ _ hother, sameCounts_of_perm _ _ _ _ _ _ _ _ hperm⟩
  case appended =>
    intro hshort text threads' perThread' durationMs'
    exact ⟨_, summarise_eq_tally _ _ _ _ _ (.inr hshort), oneMore_tally _ _ _ _ _ _ _ _ _⟩

end

/-! ## Identifiers of a generator -/

namespace Ledger

/-- The stamp of each success, its counter value, which goes round from the first value, and its
suffix. -/
structure Triples (ceiling first : Int) (l : Ledger) (triples : List (List Char × Int × Nat)) :
    Prop where
  length_eq : triples.length = l.entries.length
  triple : ∀ (k : Nat) (e : Entry), l.entries[k]? = some e →
    ∃ stamp suffix, e.reading.stamp = .ok stamp ∧ e.answer.suffix = .ok suffix ∧
      triples[k]? = some (stamp, (first + k) % (ceiling + 1), suffix)

/-- The identifier that a triple makes. -/
def ofTriple (ceiling : Int) (triple : List Char × Int × Nat) : String :=
  spelled ceiling triple.2.1 triple.1 triple.2.2

variable {ceiling : Int} {l : Ledger} {triples : List (List Char × Int × Nat)}

theorem Balanced.exists_triples (h : l.Balanced ceiling) :
    ∃ triples, l.Triples ceiling l.base triples := by
  have hmade : ∀ k : Fin l.entries.length,
      (l.entries[k]).MadeOf ceiling ((l.base + (k : Nat)) % (ceiling + 1)) :=
    fun k => h.made k _ (List.getElem?_eq_getElem k.2)
  choose stamp suffix hstamp hsuffix _ using hmade
  refine ⟨List.ofFn fun k => (stamp k, (l.base + (k : Nat)) % (ceiling + 1), suffix k),
    List.length_ofFn, fun k e hk => ?_⟩
  obtain ⟨hlt, rfl⟩ := List.getElem?_eq_some_iff.mp hk
  refine ⟨stamp ⟨k, hlt⟩, suffix ⟨k, hlt⟩, hstamp ⟨k, hlt⟩, hsuffix ⟨k, hlt⟩, ?_⟩
  rw [List.getElem?_ofFn, dif_pos hlt]

/-- What a triple is made of: a stamp of full width and a value under the ceiling. -/
theorem Triples.fits (ht : l.Triples ceiling l.base triples) (h : l.Balanced ceiling)
    {t : List Char × Int × Nat} (hmem : t ∈ triples) :
    t.1.length = stampWidth ∧ 0 ≤ t.2.1 ∧ t.2.1 ≤ ceiling := by
  obtain ⟨k, hk⟩ := List.mem_iff_getElem?.mp hmem
  have hlt := (List.getElem?_eq_some_iff.mp hk).1
  rw [ht.length_eq] at hlt
  obtain ⟨stamp, suffix, hstamp, -, htriple⟩ := ht.triple k _ (List.getElem?_eq_getElem hlt)
  rw [hk, Option.some.injEq] at htriple
  subst htriple
  exact ⟨ClockAnswer.length_of_stamp hstamp, emod_range h.ceiling_pos _⟩

theorem Triples.identifiers (ht : l.Triples ceiling l.base triples) (h : l.Balanced ceiling) :
    l.entries.map Entry.identifier = triples.map (ofTriple ceiling) := by
  refine List.ext_getElem? fun k => ?_
  rw [List.getElem?_map, List.getElem?_map]
  cases hk : l.entries[k]? with
  | none =>
    have hlen := List.getElem?_eq_none_iff.mp hk
    rw [← ht.length_eq] at hlen
    rw [List.getElem?_eq_none hlen]
    rfl
  | some e =>
    obtain ⟨stamp, suffix, hstamp, hsuffix, htriple⟩ := ht.triple k e hk
    obtain ⟨stamp', suffix', hstamp', hsuffix', hid⟩ := h.made k e hk
    cases hstamp.symm.trans hstamp'
    cases hsuffix.symm.trans hsuffix'
    rw [htriple, Option.map_some, Option.map_some, hid]
    rfl

/-- There are as many different identifiers as different triples. -/
theorem Triples.distinctCount_eq (ht : l.Triples ceiling l.base triples)
    (h : l.Balanced ceiling) :
    distinctCount (l.entries.map Entry.identifier) = triples.toFinset.card := by
  -- Stamps have one width and values fit under the ceiling, so the text tells its triple.
  have hinj : Set.InjOn (ofTriple ceiling) triples.toFinset := by
    intro t hmem t' hmem' heq
    obtain ⟨hwidth, hlow, hhigh⟩ := ht.fits h (List.mem_toFinset.mp hmem)
    obtain ⟨hwidth', hlow', hhigh'⟩ := ht.fits h (List.mem_toFinset.mp hmem')
    obtain ⟨hvalue, hstamp, hsuffix⟩ := (Identifier.spelled_inj hwidth hwidth' hlow hlow'
      (.inr hhigh) (.inr hhigh')).mp heq
    exact Prod.ext hstamp (Prod.ext hvalue hsuffix)
  have himage : (triples.map (ofTriple ceiling)).toFinset =
      triples.toFinset.image (ofTriple ceiling) := by
    ext text
    simp
  rw [distinctCount_eq_length_dedup, ← List.card_toFinset, ht.identifiers h, himage,
    Finset.card_image_of_injOn hinj]

end Ledger

/-- **Summaries.** The account of any texts counts them exactly, in whatever order they come, and
moves on with each text as it should, under any ceiling that can be written; under another there is
an account only of no texts. Let a counter be made with a ceiling of at least one and a start in
range, and let no value be set. Then the account of all identifiers that a generator on it has made
finds none malformed, and as many different ones as there are different triples of the stamp, the
remainder of the start and the number of the success, and the suffix. -/
theorem summary_exact :
    (∀ (texts : List String) (threads perThread ceiling durationMs : Int),
      (texts = [] ∨ ceiling.natAbs < 10 ^ maxDigits →
        ∃ s, summarise texts threads perThread ceiling (.ok durationMs) = .ok s ∧
          s.Exact ceiling texts) ∧
      (¬ (texts = [] ∨ ceiling.natAbs < 10 ^ maxDigits) →
        summarise texts threads perThread ceiling (.ok durationMs) = .error .longCeiling)) ∧
    ∀ (ceiling start : Int) (sources : Sources) (fraction : Binary64) (deeds : List Deed),
      1 ≤ ceiling → ceiling.natAbs < 10 ^ maxDigits → 0 ≤ start ∧ start ≤ ceiling + 1 →
      (∀ d ∈ deeds, ¬ ∃ value, d = .force value) →
      let session : Session := ⟨⟨⟨ceiling, start⟩, sources⟩, []⟩
      let l := (Ledger.opened session.generator).run (Deed.history fraction session deeds)
      l.generator = (Deed.play fraction session deeds).2.generator ∧
      ∀ threads perThread durationMs : Int,
        ∃ s, summarise (l.entries.map Entry.identifier) threads perThread ceiling
            (.ok durationMs) = .ok s ∧ s.malformed = 0 ∧
          ∃ triples, l.Triples ceiling start triples ∧ s.unique = triples.toFinset.card := by
  refine ⟨fun texts threads perThread ceiling durationMs =>
    ⟨exact_summarise texts threads perThread ceiling durationMs, fun hlong => ?_⟩, ?_⟩
  · obtain ⟨hne, hlong⟩ := not_or.mp hlong
    unfold summarise
    rw [if_pos ⟨hne, isLong_iff.mpr (Nat.not_lt.mp hlong)⟩]
  intro ceiling start sources fraction deeds hc hshort hs hd session l
  refine ⟨(Ledger.run_history fraction rfl deeds).1, ?_⟩
  intro threads perThread durationMs
  have hbalanced : l.Balanced ceiling := (Ledger.balanced_opened hc hs sources).run _
  have hbase : l.base = start := by
    obtain ⟨n, -, hhistory⟩ := Deed.history_eq_replicate fraction (s := session) hd
    show ((Ledger.opened session.generator).run (Deed.history fraction session deeds)).base = start
    rw [hhistory]
    exact ((Ledger.opened session.generator).run_successes n).1
  obtain ⟨triples, htriples⟩ := hbalanced.exists_triples
  refine ⟨_, summarise_eq_tally _ _ _ _ _ (.inr hshort), ?_, triples, hbase ▸ htriples,
    htriples.distinctCount_eq hbalanced⟩
  refine (tells_tally (fun text htext => ?_) durationMs).malformed
  obtain ⟨e, he, rfl⟩ := List.mem_map.mp htext
  exact hbalanced.wellFormed_of_mem he

/-- A clock that fails once and then stands still under a ceiling of one: of the three successes,
two of them by workers that take turns, the third repeats the first. -/
theorem summary_exact_repeat :
    let moment : Moment := ⟨.mk 2026 7 17, .mk 12 0 0 0, none⟩
    let sources := Sources.new ⟨.raised "no time", [.reading moment]⟩
      (.scripted ⟨.value (.int 100000), []⟩)
    let session : Session := ⟨⟨⟨1, 2⟩, sources⟩, []⟩
    let deeds : List Deed := [.generate, .generate, .schedule 2 1 ⟨1, .int 0, .int 0⟩ [1, 0]]
    let l := (Ledger.opened session.generator).run (Deed.history .zero session deeds)
    ∃ s, summarise (l.entries.map Entry.identifier) 2 1 1 (.ok 0) = .ok s ∧
      s.total = 3 ∧ s.duplicates = 1 ∧ s.malformed = 0 ∧
      ∃ triples, l.Triples 1 2 triples ∧ triples.toFinset.card = 2 := by
  intro moment sources session deeds l
  have hforce : ∀ d ∈ deeds, ¬ ∃ value, d = .force value := by
    simp [deeds]
  have hshort : (1 : Int).natAbs < 10 ^ maxDigits := Nat.one_lt_pow (by decide) (by decide)
  obtain ⟨-, hsummary⟩ :=
    summary_exact.2 1 2 sources .zero deeds (by decide) hshort (by decide) hforce
  obtain ⟨s, hs, hmalformed, triples, htriples, hunique⟩ := hsummary 2 1 0
  obtain ⟨_, hduration, heq⟩ := eq_tally_of_summarise hs
  cases hduration
  have htotal : s.total = 3 := by
    rw [heq]
    decide +kernel
  have htwo : s.unique = 2 := by
    rw [heq]
    decide +kernel
  refine ⟨s, hs, htotal, ?_, hmalformed, triples, htriples, hunique.symm.trans htwo⟩
  rw [BatchSummary.duplicates, htotal, htwo]

/-- One text under a ceiling of one digit too many is not summed up. -/
theorem no_summary_of_long_ceiling :
    summarise ["1"] 1 1 (Int.ofNat (10 ^ maxDigits)) (.ok 0) = .error .longCeiling := by
  have hlong : isLong (Int.ofNat (10 ^ maxDigits)) = true := isLong_iff.mpr (Nat.le_refl _)
  unfold summarise
  rw [if_pos ⟨nofun, hlong⟩]

end Sequencer
