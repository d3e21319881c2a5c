import SecurityKey.Deadline
import SecurityKey.Report.Frame

/-!
# Links

A link carries reports between the host and a device.  Reading and writing may have a
deadline, and both may fail; a read may also wait forever, when nothing is to come and
there is no deadline.  `Halt` tells the two apart.

A `FiniteLink` is a link on which only finitely much will ever be read: each report that
is read takes from its supply, and writing adds nothing to it.  Everything that reads
until something arrives ends on such a link.
-/

set_option autoImplicit false

namespace SecurityKey

/-- Why an operation on a link gave no result. -/
inductive Halt where
  | failed (error : Error)
  | waitsForever
  deriving DecidableEq, Repr

/-- A link to a device. -/
class Link (σ : Type) where
  /-- Reads the next report. -/
  read (deadline : Deadline) : EStateM Halt σ Report
  /-- Writes a report. -/
  write (report : Report) (deadline : Deadline) : EStateM Halt σ Unit

/-- A link on which only finitely much will be read. -/
class FiniteLink (σ : Type) extends Link σ where
  /-- A bound on the number of reports that can still be read. -/
  supply : σ → Nat
  /-- A report that is read takes from the supply. -/
  supply_read : ∀ {deadline : Deadline} {report : Report} {link next : σ},
    read deadline link = .ok report next → supply next < supply link
  /-- Writing adds nothing to the supply. -/
  supply_write : ∀ {report : Report} {deadline : Deadline} {link next : σ},
    write report deadline link = .ok () next → supply next ≤ supply link

/-- The bytes that a report is written as; devices with numbered reports expect the
report number, zero, before it. -/
def Report.outgoing (numbered : Bool) (report : Report) : Bytes :=
  if numbered then 0 :: report.bytes else report.bytes

end SecurityKey
