/-!
# Paths

A path is a row of names, from the working directory or from the root. Empty names and single
dots are dropped when a path is read; double dots are kept, because what they mean depends on the
directories there are.
-/

namespace Sequencer

/-- A path. -/
structure Path where
  /-- The slashes that a path from the root starts with. -/
  root : String
  names : List String
  deriving DecidableEq, Repr

namespace Path

/-- The slashes in front of a path that count: two if there are exactly two, else one or none. -/
def rootOf (text : List Char) : String :=
  match text with
  | '/' :: '/' :: '/' :: _ => "/"
  | '/' :: '/' :: _ => "//"
  | '/' :: _ => "/"
  | _ => ""

/-- The parts of a text between slashes. -/
def parts : List Char → List (List Char)
  | [] => [[]]
  | c :: rest =>
    if c = '/' then [] :: parts rest
    else
      match parts rest with
      | part :: more => (c :: part) :: more
      | [] => [[c]]

/-- Reads a path. -/
def ofText (text : String) : Path where
  root := rootOf text.toList
  names := ((parts text.toList).filter fun part => part ≠ [] && part ≠ ['.']).map String.ofList

/-- The path of a name inside a directory. -/
def child (p : Path) (name : String) : Path := { p with names := p.names ++ [name] }

/-- The path without its last name. -/
def parent (p : Path) : Path := { p with names := p.names.dropLast }

/-- The text of a path. -/
def text (p : Path) : String :=
  if p.names = [] then if p.root = "" then "." else p.root
  else p.root ++ String.intercalate "/" p.names

end Path

end Sequencer
