import SecurityKey.CommandLine.Disk
import SecurityKey.Settings.File

/-!
# Saved settings

Settings are saved as a document in a file, which is made if it is not there, and loaded from
it again.  Nothing is written when the settings have no document.
-/

set_option autoImplicit false

namespace SecurityKey

namespace CommandLine.Disk

/-- Replaces what a file holds, or makes it.  A sink takes everything and keeps nothing. -/
def write (path : String) (content : Bytes) (disk : Disk) : Except SystemFault Disk := do
  let place ← disk.resolveNew path
  match disk.at? place with
  | some .directory => throw .isADirectory
  | some .sink => return disk
  | _ => return disk.set place (.file content)

end CommandLine.Disk

namespace Settings

open CommandLine (Disk)

/-- Saves settings in the file at a path. -/
def save (path : String) (settings : Settings) (disk : Disk) : Except Error Disk := do
  let text ← settings.print
  match disk.write path (Bytes.ofText text) with
  | .ok disk => return disk
  | .error fault => throw (.settings (.unwritable fault))

/-- Loads settings from the file at a path. -/
def load (path : String) (disk : Disk) : Except Error Settings :=
  match disk.lookup path with
  | .error fault => .error (.settings (.unopened fault))
  | .ok .directory => .error (.settings (.unreadable .isADirectory))
  | .ok .sink => parseFile []
  | .ok (.file content) => parseFile content

end Settings

end SecurityKey
