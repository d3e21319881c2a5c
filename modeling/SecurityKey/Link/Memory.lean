import SecurityKey.Link.Basic
import SecurityKey.Report.Reassembler

/-!
# A device in memory

A memory link holds the reports that wait to be read and the reactions of the device to
come.  The device puts the reports of the host together; when a message is complete, the
next reaction decides what it replies with, and the replies wait behind what is already
there.  A reaction may also be a failure; then the message counts as not sent.

Every reply is one that the link held from the start, so `supply` counts the waiting
reports and those of the reactions to come.
-/

set_option autoImplicit false

namespace SecurityKey

/-- What a device does when a message of the host is complete: it fails or it replies. -/
abbrev Reaction := Except Error (List RawMessage)

/-- A device in memory. -/
structure MemoryLink where
  /-- The reports that wait to be read. -/
  inbound : List Report
  /-- The message of the host that is under way. -/
  assembler : Reassembler
  /-- The messages of the host that were complete, in order. -/
  sent : List RawMessage
  /-- The number of reports that the host has written. -/
  reportsWritten : Nat
  /-- The reactions to come; none means that the device does not reply. -/
  reactions : List Reaction

namespace MemoryLink

/-- A device with reactions and nothing to read. -/
def ofReactions (reactions : List Reaction) : MemoryLink := ⟨[], .idle, [], 0, reactions⟩

/-- Puts a report behind those that wait to be read. -/
def queueReport (report : Report) (link : MemoryLink) : MemoryLink :=
  { link with inbound := link.inbound ++ [report] }

/-- Puts the reports of messages behind those that wait to be read. -/
def queueAll : List RawMessage → EStateM Error MemoryLink Unit
  | [], link => .ok () link
  | message :: rest, link =>
      match message.packetize with
      | .ok reports => queueAll rest { link with inbound := link.inbound ++ reports }
      | .error error => .error error link

/-- Keeps a message of the host that was complete. -/
def record (message : RawMessage) (link : MemoryLink) : MemoryLink :=
  { link with sent := link.sent ++ [message] }

/-- Lets the device react to a message that is complete. -/
def react (message : RawMessage) : EStateM Error MemoryLink Unit := fun link =>
  match link.reactions with
  | [] => .ok () (link.record message)
  | .error error :: rest => .error error { link with reactions := rest }
  | .ok replies :: rest =>
      match queueAll replies { link with reactions := rest } with
      | .ok () next => .ok () (next.record message)
      | .error error next => .error error next

/-- Takes a report of the host. -/
def accept (report : Report) : EStateM Error MemoryLink Unit := fun link =>
  let reportsWritten := link.reportsWritten + 1
  match Reassembler.push report link.assembler with
  | .ok none assembler => .ok () { link with assembler, reportsWritten }
  | .ok (some message) assembler => react message { link with assembler, reportsWritten }
  | .error error assembler => .error error { link with assembler, reportsWritten }

/-! ## The supply -/

/-- The number of reports that a reaction puts in at most. -/
def replies (reaction : Reaction) : Nat :=
  match reaction with
  | .ok messages =>
      messages.foldr (fun message count => Report.count message.payload.length + count) 0
  | .error _ => 0

/-- The reports that wait, and those of the reactions to come. -/
def supply (link : MemoryLink) : Nat :=
  link.inbound.length + link.reactions.foldr (fun reaction count => replies reaction + count) 0

theorem supply_queueAll (messages : List RawMessage) {link next : MemoryLink}
    (run : queueAll messages link = .ok () next) :
    next.supply = link.supply + replies (.ok messages) := by
  induction messages generalizing link with
  | nil =>
      cases run
      simp [replies]
  | cons message rest hypothesis =>
      simp only [queueAll] at run
      split at run
      · rename_i reports framed
        rw [hypothesis run]
        simp only [supply, replies, List.foldr_cons, List.length_append,
          RawMessage.length_packetize framed]
        omega
      · cases run

theorem supply_react (message : RawMessage) {link next : MemoryLink}
    (run : react message link = .ok () next) : next.supply = link.supply := by
  simp only [react] at run
  split at run
  · cases run
    rfl
  · cases run
  · rename_i messages rest reactions
    split at run
    · rename_i middle queued
      cases run
      change middle.supply = _
      rw [supply_queueAll messages queued]
      simp only [supply, reactions, List.foldr_cons]
      omega
    · cases run

theorem supply_accept (report : Report) {link next : MemoryLink}
    (run : accept report link = .ok () next) : next.supply = link.supply := by
  simp only [accept] at run
  split at run
  · cases run
    rfl
  · exact (supply_react _ run).trans rfl
  · cases run

/-! ## The link -/

instance : FiniteLink MemoryLink where
  read _ link :=
    match link.inbound with
    | [] => .error (.failed .connectionClosed) link
    | report :: rest => .ok report { link with inbound := rest }
  write report _ link :=
    match accept report link with
    | .ok () next => .ok () next
    | .error error next => .error (.failed error) next
  supply := supply
  supply_read := by
    intro deadline report link next run
    split at run
    · cases run
    · rename_i first rest inbound
      cases run
      simp only [supply, inbound, List.length_cons]
      omega
  supply_write := by
    intro report deadline link next run
    split at run
    · rename_i accepted
      cases run
      exact Nat.le_of_eq (supply_accept report accepted)
    · cases run

end MemoryLink

end SecurityKey
