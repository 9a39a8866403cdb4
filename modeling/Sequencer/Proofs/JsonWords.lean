import Sequencer.Json.Reader
import Sequencer.Json.Writer
import Sequencer.Proofs.Numeral

/-!
# Strings and words of JSON

A string is read as the text that was written, whatever characters it holds (`readChars_string`),
and the text of an integer as the integer, whatever follows unless it goes on like a number or a
name (`NoWord`). Neither is written with a control character (`NoControls`).
-/

namespace Sequencer.Json

open Text

/-! ## Strings -/

/-- What a character inside a string is written as: a letter that stands for it behind a backslash,
its number as an escape, or itself. -/
inductive Escaped (c : Char) : List Char → Prop
  | letter (letter : Char) (visible : 0x20 ≤ letter.toNat) (means : unescape? letter = some c) :
      Escaped c ['\\', letter]
  | unit (control : c.toNat < 0x20) : Escaped c (unitEscape c.toNat)
  | plain (notQuote : c ≠ '"') (notBackslash : c ≠ '\\') (visible : 0x20 ≤ c.toNat) :
      Escaped c [c]

theorem escaped_escape (c : Char) : Escaped c (escape .controls c) := by
  have hof : ∀ n, c.toNat = n → c = Char.ofNat n := fun n h => by rw [← h, Char.ofNat_toNat]
  unfold escape
  split
  · subst_vars
    exact .letter '"' (by decide) rfl
  split
  · subst_vars
    exact .letter '\\' (by decide) rfl
  split
  · subst_vars
    exact .letter 'n' (by decide) rfl
  split
  · subst_vars
    exact .letter 'r' (by decide) rfl
  split
  · subst_vars
    exact .letter 't' (by decide) rfl
  split
  · rename_i h
    exact .letter 'b' (by decide) (by rw [hof 8 h]; rfl)
  split
  · rename_i h
    exact .letter 'f' (by decide) (by rw [hof 12 h]; rfl)
  split
  · rename_i h
    exact .unit h
  · rename_i hquote hbackslash _ _ _ _ _ hcontrol
    rw [if_neg (by simp)]
    exact .plain hquote hbackslash (Nat.not_lt.mp hcontrol)

theorem exists_hex_control {n : Nat} (hn : n < 0x20) :
    ∃ a b c d, hex 4 n = [a, b, c, d] ∧ unitValue? a b c d = some n := by
  have h : ∀ n : Fin 0x20,
      hex 4 n = ['0', '0', Nat.digitChar (n / 16), Nat.digitChar (n % 16)] ∧
        unitValue? '0' '0' (Nat.digitChar (n / 16)) (Nat.digitChar (n % 16)) = some n.val := by
    decide
  obtain ⟨hdigits, hvalue⟩ := h ⟨n, hn⟩
  exact ⟨_, _, _, _, hdigits, hvalue⟩

/-- A character as it is written inside a string is read as itself. -/
theorem readChars_escape (c : Char) (rest : List Char) :
    readChars none (escape .controls c ++ rest) =
      (readChars none rest).map fun (cs, r) => (c :: cs, r) := by
  have hwritten := escaped_escape c
  generalize escape .controls c = written at hwritten ⊢
  cases hwritten with
  | letter letter _ means =>
    have hletter : letter ≠ 'u' := by
      rintro rfl
      cases means
    rw [List.cons_append, List.singleton_append, readChars]
    · simp [means, flushHalf]
    · intro _ _ _ _ _ heq
      simp [hletter] at heq
  | unit control =>
    obtain ⟨a, b, d, e, hhex, hunit⟩ := exists_hex_control control
    have hhalf : ¬ (0xd800 ≤ c.toNat ∧ c.toNat < 0xdc00) := by omega
    have hpair : ¬ (0xd800 ≤ c.toNat ∧ c.toNat < 0xe000) := by omega
    rw [unitEscape, hhex]
    simp only [List.cons_append, List.nil_append]
    rw [readChars]
    simp [hunit, hhalf, unitChar, hpair, Char.ofNat_toNat]
  | plain notQuote notBackslash visible =>
    rw [List.singleton_append, readChars]
    · simp [Nat.not_lt.mpr visible, flushHalf]
    · exact notQuote
    · intro _ _ _ _ _ heq
      simp [notBackslash] at heq
    · intro _ _ heq
      simp [notBackslash] at heq

/-- The inside of a string is read up to the closing quote. -/
theorem readChars_string (text rest : List Char) :
    readChars none (text.flatMap (escape .controls) ++ '"' :: rest) = some (text, rest) := by
  induction text with
  | nil => rfl
  | cons c text ih =>
    rw [List.flatMap_cons, List.append_assoc, readChars_escape, ih]
    rfl

/-! ## Words -/

/-- No number or name goes on here. -/
def NoWord (rest : List Char) : Prop := ∀ c ∈ rest.head?, isWordChar c = false

theorem noWord_nil : NoWord [] := by simp [NoWord]

theorem noWord_cons {c : Char} {rest : List Char} (h : isWordChar c = false) :
    NoWord (c :: rest) := by
  simpa [NoWord] using h

theorem takeWhile_word {word rest : List Char} (hword : ∀ c ∈ word, isWordChar c = true)
    (hrest : NoWord rest) :
    (word ++ rest).takeWhile isWordChar = word ∧ (word ++ rest).dropWhile isWordChar = rest := by
  have hnil : rest.takeWhile isWordChar = [] ∧ rest.dropWhile isWordChar = rest := by
    cases rest with
    | nil => exact ⟨rfl, rfl⟩
    | cons c rest =>
      have hc : isWordChar c = false := hrest c rfl
      rw [List.takeWhile_cons_of_neg (by simp [hc]), List.dropWhile_cons_of_neg (by simp [hc])]
      exact ⟨rfl, rfl⟩
  rw [List.takeWhile_append_of_pos hword, List.dropWhile_append_of_pos hword, hnil.1, hnil.2,
    List.append_nil]
  exact ⟨rfl, rfl⟩

theorem isWordChar_of_isDigit {c : Char} (h : c.isDigit = true) : isWordChar c = true := by
  simp [isWordChar, Char.isAlphanum, h]

theorem natural_ne_nil (n : Nat) : natural n ≠ [] :=
  List.length_pos_iff.mp (length_natural_pos n)

/-- A leading zero stands alone. -/
theorem natural_zero_cons {n : Nat} {digits : List Char} (h : natural n = '0' :: digits) :
    digits = [] := by
  by_contra hne
  have hvalue : n = naturalValue digits := by
    rw [← naturalValue_natural n, h, naturalValue_cons]
    simp
  have hdigits : IsNumeral digits.length digits := by
    refine ⟨rfl, fun c hc => ?_⟩
    have hmem : c ∈ natural n := by
      rw [h]
      exact List.mem_cons_of_mem _ hc
    exact isDigit_of_mem_natural hmem
  have hle := (length_natural_le_iff (List.length_pos_iff.mpr hne)).mpr (hvalue ▸ hdigits.value_lt)
  rw [h, List.length_cons] at hle
  omega

theorem dropWhile_natural (n : Nat) : (natural n).dropWhile (· == '-') = natural n := by
  cases h : natural n with
  | nil => rfl
  | cons c digits =>
    have hc : c ∈ natural n := by
      rw [h]
      exact List.mem_cons_self
    have hc := isDigit_of_mem_natural hc
    refine List.dropWhile_cons_of_neg ?_
    rw [beq_iff_eq]
    rintro rfl
    cases hc

theorem isInteger_of_dropWhile {word : List Char} {n : Nat}
    (h : word.dropWhile (· == '-') = natural n)
    (hlength : word.length ≤ (natural n).length + 1) : isInteger word = true := by
  unfold isInteger
  rw [h]
  split
  · rename_i hnil
    exact absurd hnil (natural_ne_nil n)
  · rename_i digits hzero
    obtain rfl := natural_zero_cons hzero
    rw [hzero] at hlength
    simpa using hlength
  · have hall : (natural n).all Char.isDigit = true :=
      List.all_eq_true.mpr fun _ => isDigit_of_mem_natural
    simp [hall, hlength]

theorem readWord?_integer (n : Int) : readWord? (integer n) = some (.int n) := by
  cases n with
  | ofNat n =>
    have hdrop := dropWhile_natural n
    have hhead : (natural n).head? ≠ some '-' := by
      intro h
      have := isDigit_of_mem_natural (List.mem_of_mem_head? h)
      cases this
    show readWord? (natural n) = _
    unfold readWord?
    rw [if_pos (isInteger_of_dropWhile hdrop (by omega)), hdrop, naturalValue_natural]
    simp [hhead]
  | negSucc n =>
    have hdrop : ('-' :: natural (n + 1)).dropWhile (· == '-') = natural (n + 1) := by
      rw [List.dropWhile_cons_of_pos (by rfl), dropWhile_natural]
    show readWord? ('-' :: natural (n + 1)) = _
    unfold readWord?
    rw [if_pos (isInteger_of_dropWhile hdrop (by simp)), hdrop, naturalValue_natural]
    simp
    omega

theorem integer_ne_nil (n : Int) : integer n ≠ [] := by
  cases n with
  | ofNat n => exact natural_ne_nil n
  | negSucc n => exact List.cons_ne_nil _ _

theorem isWordChar_of_mem_integer {n : Int} {c : Char} (h : c ∈ integer n) :
    isWordChar c = true := by
  cases n with
  | ofNat n => exact isWordChar_of_isDigit (isDigit_of_mem_natural h)
  | negSucc n =>
    rcases List.mem_cons.mp h with rfl | h
    · rfl
    · exact isWordChar_of_isDigit (isDigit_of_mem_natural h)

theorem readValue_word {word rest : List Char} {s : Scalar} (hne : word ≠ [])
    (hword : word.all isWordChar = true) (hread : readWord? word = some s)
    (hrest : NoWord rest) (fuel : Nat) :
    readValue (fuel + 1) (word ++ rest) = some (.scalar s, rest) := by
  have hword := List.all_eq_true.mp hword
  obtain ⟨htake, hdrop⟩ := takeWhile_word hword hrest
  cases word with
  | nil => exact absurd rfl hne
  | cons c word =>
    have hne : ∀ d, isWordChar d = false → c ≠ d := by
      rintro d hd rfl
      rw [hword c List.mem_cons_self] at hd
      cases hd
    rw [List.cons_append] at htake hdrop ⊢
    rw [readValue, if_neg (hne _ rfl), if_neg (hne _ rfl), if_neg (hne _ rfl), htake, hdrop, hread]
    rfl

/-! ## Controls -/

/-- No character of the text is a control. -/
def NoControls (text : List Char) : Prop := ∀ c ∈ text, 0x20 ≤ c.toNat

instance (text : List Char) : Decidable (NoControls text) := List.decidableBAll ..

@[simp] theorem noControls_nil : NoControls [] := by simp [NoControls]

@[simp] theorem noControls_cons {c : Char} {text : List Char} :
    NoControls (c :: text) ↔ 0x20 ≤ c.toNat ∧ NoControls text := by
  simp [NoControls]

@[simp] theorem noControls_append {text text' : List Char} :
    NoControls (text ++ text') ↔ NoControls text ∧ NoControls text' := by
  simp [NoControls, or_imp, forall_and]

theorem noControls_separated {separator : List Char} {parts : List (List Char)}
    (hseparator : NoControls separator) (h : ∀ part ∈ parts, NoControls part) :
    NoControls (separated separator parts) := by
  induction parts with
  | nil => simp [separated]
  | cons part rest ih =>
    have hpart := h part List.mem_cons_self
    cases rest with
    | nil => exact hpart
    | cons next rest =>
      have hrest := ih fun p hp => h p (List.mem_cons_of_mem _ hp)
      exact noControls_append.mpr ⟨noControls_append.mpr ⟨hpart, hseparator⟩, hrest⟩

theorem noControls_unitEscape {n : Nat} (h : n < 32) : NoControls (unitEscape n) := by
  have hall : ∀ n : Fin 32, NoControls (unitEscape n) := by decide
  exact hall ⟨n, h⟩

theorem noControls_escape (c : Char) : NoControls (escape .controls c) := by
  have hwritten := escaped_escape c
  generalize escape .controls c = written at hwritten ⊢
  cases hwritten with
  | letter letter visible means => simp [visible]
  | unit control => exact noControls_unitEscape control
  | plain _ _ visible => simpa using visible

theorem noControls_string (text : List Char) : NoControls (string .controls text) := by
  have hinside : NoControls (text.flatMap (escape .controls)) := by
    intro d hd
    obtain ⟨c, -, hc⟩ := List.mem_flatMap.mp hd
    exact noControls_escape c d hc
  simp [string, hinside]

theorem noControls_integer (n : Int) : NoControls (integer n) := by
  have hdigits : ∀ n : Nat, NoControls (natural n) := by
    intro n c hc
    have := isDigit_iff_toNat.mp (isDigit_of_mem_natural hc)
    omega
  cases n with
  | ofNat n => exact hdigits n
  | negSucc n => exact noControls_cons.mpr ⟨by decide, hdigits (n + 1)⟩

end Sequencer.Json
