import Sequencer.Config.Schema
import Sequencer.Files.Tree
import Sequencer.Yaml.Document

/-!
# Loading a configuration

The configuration is the file `generator.yml` of a directory. A file of that name in an overlay
directory, if there is one and it is not empty, is laid over it before the whole is checked: where
both are mappings they are merged entry by entry, new keys coming last; everywhere else the overlay
takes the base's place. `Value.at?` follows a path of keys into a value, which is the view in which
a merge is described. Base and overlay may hold mappings that lie within themselves under the same
keys; then merging fails, as it comes to no end.
-/

namespace Sequencer

/-! ## Merging -/

mutual

/-- Lays an overlay over a base. -/
def Value.merge (base : Value) : (overlay : Value) → Value
  | .map changes =>
    match base with
    | .map entries => .map (mergeEntries entries changes)
    | _ => .map changes
  | other => other

/-- Lays the entries of an overlay over those of a base, one after another. -/
def mergeEntries (entries : Entries) : (changes : List (Scalar × Value)) → Entries
  | [] => entries
  | (key, value) :: rest =>
    match Entries.get? key entries with
    | some old => mergeEntries (Entries.put key (Value.merge old value) entries) rest
    | none => mergeEntries (Entries.put key value entries) rest

end

/-- The value at the end of a path of keys. -/
def Value.at? (value : Value) : (path : List Scalar) → Option Value
  | [] => some value
  | key :: rest =>
    match value with
    | .map entries => (Entries.get? key entries).bind fun inner => inner.at? rest
    | _ => none

/-! ## Files -/

/-- Why no settings were loaded. -/
inductive LoadFailure
  /-- The configuration was found wanting. -/
  | config (failure : ConfigFailure)
  /-- A file is not read as YAML. -/
  | markup (failure : Yaml.Failure)
  /-- A file is not read at all. -/
  | file (fault : FileFault)
  /-- Merging the overlay into the base comes to no end. -/
  | endless
  deriving DecidableEq, Repr

/-- The name of configuration files. -/
def configFileName : String := "generator.yml"

/-- Reads a YAML file. -/
def FileTree.readDocument (t : FileTree) (path : Path) : Except LoadFailure Yaml.Document := do
  let text ← (t.readText path).mapError .file
  (Yaml.read text).mapError .markup

/-- What an overlay makes of a configuration. Null leaves it as it is. -/
def overlaid (base overlay : Yaml.Document) : Except LoadFailure Value :=
  if base.mergesForever overlay then .error .endless
  else
    match overlay.value with
    | .null => .ok base.value
    | changes => .ok (base.value.merge changes)

/-- The value of a configuration, with the overlay laid over it if there is one. -/
def FileTree.configValue (t : FileTree) (path : Path) (overlay : Option Path) :
    Except LoadFailure Value := do
  let base ← t.readDocument path
  match overlay with
  | none => return base.value
  | some overlay =>
    if ← (t.isPresent overlay).mapError .file then overlaid base (← t.readDocument overlay)
    else return base.value

/-- Loads the settings of a directory and an overlay directory. -/
def FileTree.loadSettings (t : FileTree) (lenient : Bool) (directory : Path)
    (overlayDirectory : Option Path) : Except LoadFailure Settings := do
  let path := directory.child configFileName
  if ← (t.isPresent path).mapError .file then
    let value ← t.configValue path (overlayDirectory.map (·.child configFileName))
    (Settings.ofValue lenient value).mapError .config
  else .error (.config (.fault (.missingFile path.text)))

end Sequencer
