/-!
# Kinds of failure

The failures of the domain form a tree of kinds. Each kind has a code under which it is logged.
A failure of a kind is also one of the kinds above it; those of the kind `generation` may be
tried again.
-/

namespace Sequencer

/-- A kind of failure. -/
inductive FailureKind
  /-- Any failure of the domain. -/
  | sequence
  /-- Invalid or missing configuration. -/
  | config
  /-- A composed identifier breaks the layout. -/
  | contract
  /-- A failed composition that may be tried again. -/
  | generation
  /-- The clock gives no stamp. -/
  | clockFormat
  /-- The random source gives no suffix. -/
  | randomSource
  /-- A text that is no identifier. -/
  | identifierFormat
  deriving DecidableEq, Repr

namespace FailureKind

/-- The code under which failures of the kind are logged. -/
def code : FailureKind → String
  | sequence => "SEQUENCE_ERROR"
  | config => "CONFIG_ERROR"
  | contract => "CONTRACT_ERROR"
  | generation => "GENERATION_ERROR"
  | clockFormat => "CLOCK_FORMAT_FAILURE"
  | randomSource => "RANDOM_SOURCE_FAILURE"
  | identifierFormat => "IDENTIFIER_FORMAT_ERROR"

/-- The kind together with the kinds above it, from itself to the root. -/
def lineage : FailureKind → List FailureKind
  | sequence => [sequence]
  | clockFormat => [clockFormat, generation, sequence]
  | randomSource => [randomSource, generation, sequence]
  | kind => [kind, sequence]

/-- Every kind. -/
def all : List FailureKind :=
  [sequence, config, contract, generation, clockFormat, randomSource, identifierFormat]

/-- Different kinds have different codes. -/
theorem code_injective {a b : FailureKind} (h : a.code = b.code) : a = b := by
  cases a <;> cases b <;> first | rfl | (revert h; decide)

end FailureKind

end Sequencer
