import SecurityKey.Bytes
import SecurityKey.Error
import SecurityKey.Text.Path

/-!
# Files

A `Disk` holds directories and files by the place where they are: their names from the root
on.  A path leads from the root, or from the working directory, through its names one after
the other; a single dot stays where it is, and two dots go back to the directory above.

Every name but the last has to lead to a directory.  The last one need not lead to anything
if a file may be made there.  A slash behind it asks for a directory.
-/

set_option autoImplicit false

namespace SecurityKey.CommandLine

/-- What a place holds. -/
inductive Entry where
  | directory
  | file (content : Bytes)
  /-- A file that is always empty and keeps nothing. -/
  | sink
  deriving DecidableEq, Repr

/-- The names that lead to a place from the root. -/
abbrev Place := List (List Char)

/-- Directories and files. -/
structure Disk where
  /-- The working directory. -/
  home : Place
  /-- What there is apart from the root. -/
  entries : List (Place × Entry)
  deriving DecidableEq, Repr

namespace Disk

/-- What a place holds; the root is a directory. -/
def at? (place : Place) (disk : Disk) : Option Entry :=
  if place = [] then some .directory else disk.entries.lookup place

/-- The disk with another entry at a place. -/
def set (place : Place) (entry : Entry) (disk : Disk) : Disk :=
  { disk with entries := (place, entry) :: disk.entries.filter fun other => other.1 ≠ place }

/-! ## Limits -/

/-- The longest name, in bytes. -/
def longestName : Nat := 255

/-- The longest path, in bytes. -/
def longestPath : Nat := 4095

/-- Why no path may have this text, whatever the disk holds. -/
def pathFault (path : String) : Option SystemFault :=
  if path.toList.contains '\x00' then some .zeroInName
  else if path.isEmpty then some .notFound
  else if longestPath < path.utf8ByteSize then some .nameTooLong
  else none

/-- Refuses a text that no path may have. -/
def checkPath (path : String) : Except SystemFault Unit :=
  match pathFault path with
  | some fault => .error fault
  | none => .ok ()

/-! ## Paths -/

/-- Refuses a place that is not a directory. -/
def enter (disk : Disk) (place : Place) : Except SystemFault Unit :=
  match disk.at? place with
  | some .directory => .ok ()
  | some _ => .error .notADirectory
  | none => .error .notFound

/-- Goes on from a place by a name. -/
def step (disk : Disk) (place : Place) (name : List Char) : Except SystemFault Place := do
  disk.enter place
  if name = ['.'] then
    return place
  if name = ['.', '.'] then
    return place.dropLast
  if longestName < (String.ofList name).utf8ByteSize then
    throw .nameTooLong
  return place ++ [name]

/-- Goes on from a place by names, one after the other. -/
def walk (disk : Disk) (place : Place) : List (List Char) → Except SystemFault Place
  | [] => .ok place
  | name :: rest => do disk.walk (← disk.step place name) rest

/-- A walk can be made in two parts. -/
theorem walk_append (disk : Disk) (place : Place) (first second : List (List Char)) :
    disk.walk place (first ++ second) =
      (disk.walk place first).bind fun place => disk.walk place second := by
  induction first generalizing place with
  | nil => rfl
  | cons name rest ih =>
      simp only [List.cons_append, walk]
      cases disk.step place name with
      | error fault => rfl
      | ok next => exact ih next

/-- The place that a path begins at. -/
def start (path : String) (disk : Disk) : Place :=
  if path.toList.head? = some '/' then [] else disk.home

/-- The place that a path leads to, where nothing need be. -/
def resolve (path : String) (disk : Disk) : Except SystemFault Place := do
  checkPath path
  disk.walk (disk.start path) (Path.names path.toList)

/-- What a path leads to. -/
def lookup (path : String) (disk : Disk) : Except SystemFault Entry := do
  match disk.at? (← disk.resolve path) with
  | none => throw .notFound
  | some .directory => return .directory
  | some entry =>
      if Path.endsInSlash path.toList then
        throw .notADirectory
      return entry

/-- Whether a path leads to something. -/
def has (path : String) (disk : Disk) : Bool := (disk.lookup path).toBool

/-! ## Opening -/

/-- The content of a file that is open for reading and writing. -/
def openDevice (path : String) (disk : Disk) : Except SystemFault Bytes := do
  match ← disk.lookup path with
  | .directory => throw .isADirectory
  | .file content => return content
  | .sink => return []

/-- Keeps the content of a file that was open for reading and writing. -/
def closeDevice (path : String) (content : Bytes) (disk : Disk) : Disk :=
  match disk.resolve path with
  | .error _ => disk
  | .ok place =>
      match disk.at? place with
      | some (.file _) => disk.set place (.file content)
      | _ => disk

/-- The place of a file that may have to be made.  A path that ends in a slash cannot lead to
a file, whether or not there is something, so its last name is not looked at. -/
def resolveNew (path : String) (disk : Disk) : Except SystemFault Place := do
  checkPath path
  let names := Path.names path.toList
  let place ← disk.walk (disk.start path) names.dropLast
  disk.enter place
  match names.getLast? with
  | none => throw .isADirectory
  | some name =>
      if Path.endsInSlash path.toList then
        throw .isADirectory
      disk.step place name

/-- Opens a file for adding to it, and makes it if it is not there. -/
def openLog (path : String) (disk : Disk) : Except SystemFault Disk := do
  let place ← disk.resolveNew path
  match disk.at? place with
  | some .directory => throw .isADirectory
  | some _ => return disk
  | none => return disk.set place (.file [])

end Disk

end SecurityKey.CommandLine
