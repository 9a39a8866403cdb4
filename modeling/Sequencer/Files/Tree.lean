import Sequencer.Files.Path

/-!
# File trees

The files and directories that a run sees. A place in the tree is a row of names below the
working directory, below a directory so many levels above it, or below the root; these starting
points are always there. A file holds text, or bytes that are no text.
-/

namespace Sequencer

/-- Where the names of a place start. -/
inductive Base
  /-- So many levels above the working directory. -/
  | above (levels : Nat)
  | root
  deriving DecidableEq, Repr

/-- A place in a file tree. -/
structure Place where
  base : Base
  names : List String
  deriving DecidableEq, Repr

/-- What is at a place. -/
inductive FileEntry
  | directory
  | text (content : String)
  /-- A file that is no text. -/
  | binary
  deriving DecidableEq, Repr

/-- Why a file cannot be reached. -/
inductive FileFault
  /-- There is nothing there. -/
  | missing
  /-- A file stands where a directory is needed on the way. -/
  | notDirectory
  /-- A directory stands where a file is needed. -/
  | isDirectory
  /-- A file stands where a directory is to be made. -/
  | alreadyExists
  /-- The file is no text. -/
  | notText
  /-- A name holds the character zero. -/
  | zeroInName
  /-- A name or the whole path is too long. -/
  | tooLong
  deriving DecidableEq, Repr

/-- A file tree. -/
structure FileTree where
  entries : List (Place × FileEntry)

namespace Place

/-- The working directory. -/
def here : Place := ⟨.above 0, []⟩

/-- The place of a name in a directory. -/
def child (p : Place) (name : String) : Place := { p with names := p.names ++ [name] }

/-- The directory that a place is in. -/
def parent (p : Place) : Place :=
  match p.names, p.base with
  | [], .above levels => ⟨.above (levels + 1), []⟩
  | names, base => ⟨base, names.dropLast⟩

end Place

namespace FileTree

/-- A tree without files. -/
def empty : FileTree := ⟨[]⟩

/-- What is at a place. -/
def get? (t : FileTree) (p : Place) : Option FileEntry :=
  if p.names = [] then some .directory else t.entries.lookup p

/-- The tree with an entry at a place: instead of the one that is there, else after all others. -/
def put (t : FileTree) (p : Place) (e : FileEntry) : FileTree := ⟨go t.entries⟩
where
  go : List (Place × FileEntry) → List (Place × FileEntry)
    | [] => [(p, e)]
    | (q, old) :: rest => if q = p then (p, e) :: rest else (q, old) :: go rest

theorem lookup_go_self (p : Place) (e : FileEntry) (entries : List (Place × FileEntry)) :
    (put.go p e entries).lookup p = some e := by
  fun_induction put.go p e entries with
  | case1 => simp
  | case2 rest => simp
  | case3 q old rest h ih =>
    have hb : (p == q) = false := beq_eq_false_iff_ne.2 (Ne.symm h)
    rw [List.lookup_cons, hb, ih]

theorem lookup_go_of_ne {p q : Place} (e : FileEntry) (entries : List (Place × FileEntry))
    (h : q ≠ p) : (put.go p e entries).lookup q = entries.lookup q := by
  have hb : (q == p) = false := beq_eq_false_iff_ne.2 h
  fun_induction put.go p e entries with
  | case1 => simp [List.lookup_cons, hb]
  | case2 old rest => simp [List.lookup_cons, hb]
  | case3 r old rest _ ih => rw [List.lookup_cons, List.lookup_cons, ih]

/-- What was put at a place is there, unless the place is a starting point, which is always a
directory. -/
theorem get?_put_self (t : FileTree) {p : Place} (e : FileEntry) (h : p.names ≠ []) :
    (t.put p e).get? p = some e := by
  rw [get?, if_neg h]
  exact lookup_go_self p e t.entries

theorem get?_put_of_ne (t : FileTree) {p q : Place} (e : FileEntry) (h : q ≠ p) :
    (t.put p e).get? q = t.get? q := by
  unfold get? put
  rw [lookup_go_of_ne e t.entries h]

/-- The most bytes of a name. -/
def maxNameSize : Nat := 255

/-- The most bytes of a path. -/
def maxPathSize : Nat := 4095

/-- Follows names from a place on, each of which must be in a directory. -/
def follow (t : FileTree) (p : Place) : List String → Except FileFault Place
  | [] => .ok p
  | name :: rest =>
    match t.get? p with
    | some .directory =>
      if name.utf8ByteSize > maxNameSize then .error .tooLong
      else follow t (if name = ".." then p.parent else p.child name) rest
    | some _ => .error .notDirectory
    | none => .error .missing

/-- The place of a path. All but its last name must be there. -/
def locate (t : FileTree) (path : Path) : Except FileFault Place :=
  if path.names.any (·.toList.contains '\x00') then .error .zeroInName
  else if path.text.utf8ByteSize > maxPathSize then .error .tooLong
  else t.follow ⟨if path.root = "" then .above 0 else .root, []⟩ path.names

/-- Whether there is something at a path. A path that is too long cannot be asked for. -/
def isPresent (t : FileTree) (path : Path) : Except FileFault Bool :=
  match t.locate path with
  | .ok p => .ok (t.get? p).isSome
  | .error .tooLong => .error .tooLong
  | .error _ => .ok false

/-- Reads a file that is text. -/
def readText (t : FileTree) (path : Path) : Except FileFault String := do
  match t.get? (← t.locate path) with
  | some (.text content) => .ok content
  | some .binary => .error .notText
  | some .directory => .error .isDirectory
  | none => .error .missing

/-- Makes the directories of a path, from the first name to the last. -/
def makeDirectories (t : FileTree) (path : Path) : Except FileFault FileTree :=
  (List.range (path.names.length + 1)).foldlM
    (fun t count => do
      let path := { path with names := path.names.take count }
      let p ← t.locate path
      match t.get? p with
      | some .directory => .ok t
      -- A file in the middle is in the way; at the end it is there already.
      | some _ =>
        .error (if count = path.names.length then .alreadyExists else .notDirectory)
      | none => .ok (t.put p .directory))
    t

/-- The tree with a file opened for writing at a path, in a directory that is made if need be:
its place and what is there already. -/
def openFile (t : FileTree) (path : Path) :
    Except FileFault (FileTree × Place × Option FileEntry) := do
  let t ← t.makeDirectories path.parent
  let p ← t.locate path
  match t.get? p with
  | some .directory => .error .isDirectory
  | old => .ok (t, p, old)

/-- Writes a file, in place of one that is there. -/
def write (t : FileTree) (path : Path) (content : String) : Except FileFault FileTree := do
  let (t, p, _) ← t.openFile path
  return t.put p (.text content)

/-- The entry with text added at its end. -/
def FileEntry.append (content : String) : Option FileEntry → FileEntry
  | some (.text old) => .text (old ++ content)
  | some .binary => .binary
  | some .directory => .directory
  | none => .text content

/-- Adds text to the end of a file, which is made if need be: the tree and the file's place. -/
def append (t : FileTree) (path : Path) (content : String) :
    Except FileFault (FileTree × Place) := do
  let (t, p, old) ← t.openFile path
  return (t.put p (FileEntry.append content old), p)

/-- Adds text to the end of the file at a place. -/
def appendAt (t : FileTree) (p : Place) (content : String) : FileTree :=
  t.put p (FileEntry.append content (t.get? p))

/-- The tree with a file or directory at a path of plain names, and the directories on the way
to it. -/
def plant (t : FileTree) (names : List String) (e : FileEntry) : FileTree :=
  let onTheWay := (List.range names.length).foldl
    (fun (t : FileTree) count =>
      let p : Place := ⟨.above 0, names.take count⟩
      if (t.get? p).isSome then t else t.put p .directory)
    t
  onTheWay.put ⟨.above 0, names⟩ e

/-- The text files below the working directory, with their paths. -/
def textFiles (t : FileTree) : List (String × String) :=
  t.entries.filterMap fun
    | (⟨.above 0, names⟩, .text content) => some (String.intercalate "/" names, content)
    | _ => none

end FileTree

/-- The text of lines, each with a line end. -/
def linesText (lines : List String) : String := String.join (lines.map (· ++ "\n"))

end Sequencer
