import SecurityKey.Link.Basic

/-!
# A file as a device

A file can stand for a device.  Reads and writes share one place in the file: a write
replaces the bytes that were there, or makes the file longer, and the next read begins
behind it.  A read that finds less than a report moves to the end of the file and says
that the connection is closed.
-/

set_option autoImplicit false

namespace SecurityKey

/-- A file that is open for reading and writing. -/
structure FileLink where
  content : Bytes
  /-- The place of the next read or write. -/
  place : Nat
  /-- Whether a report number is written before each report. -/
  numbered : Bool
  deriving DecidableEq, Repr

namespace FileLink

/-- A file that has just been opened. -/
def opened (content : Bytes) (numbered : Bool) : FileLink := ⟨content, 0, numbered⟩

/-- Bytes with others written over them from a place on. -/
def overwrite (content : Bytes) (place : Nat) (bytes : Bytes) : Bytes :=
  Bytes.fit place content ++ bytes ++ content.drop (place + bytes.length)

instance : FiniteLink FileLink where
  read _ link :=
    let report := (link.content.drop link.place).take reportSize
    if report.length = reportSize then
      .ok (FixedBytes.ofBytes reportSize report) { link with place := link.place + reportSize }
    else
      .error (.failed .connectionClosed) { link with place := max link.place link.content.length }
  write report _ link :=
    let bytes := report.outgoing link.numbered
    .ok () { link with
      content := overwrite link.content link.place bytes
      place := link.place + bytes.length }
  supply link := link.content.length - link.place
  supply_read := by
    intro deadline report link next run
    simp only at run
    split at run
    · rename_i whole
      cases run
      simp only [List.length_take, List.length_drop, reportSize] at whole ⊢
      omega
    · cases run
  supply_write := by
    intro report deadline link next run
    cases run
    simp only [overwrite, List.length_append, List.length_drop, Bytes.length_fit]
    omega

end FileLink

end SecurityKey
