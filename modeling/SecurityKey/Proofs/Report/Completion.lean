import SecurityKey.Proofs.Report.Delivery

/-!
# Reports that complete a message

Some reports complete a message when a reassembler takes them one after the other and gives
the message at the last of them, not before (`Reassembler.Completes`).  What fills the last
report behind the payload does not matter, so there are many lists of reports for a message;
the reports that a message is split into are one of them (`completes_packetize`).

A report that is refused is badly encoded (`encoding_of_push`).
-/

set_option autoImplicit false

namespace SecurityKey
namespace Reassembler

/-- Reports with which a reassembler completes a message, at the last one of them. -/
inductive Completes : Reassembler → List Report → RawMessage → Prop where
  | last {assembler next : Reassembler} {report : Report} {message : RawMessage}
      (pushed : push report assembler = .ok (some message) next) :
      Completes assembler [report] message
  | more {assembler next : Reassembler} {report : Report} {rest : List Report}
      {message : RawMessage} (pushed : push report assembler = .ok none next)
      (others : Completes next rest message) :
      Completes assembler (report :: rest) message

/-- It takes at least one report. -/
theorem Completes.exists_cons {assembler : Reassembler} {reports : List Report}
    {message : RawMessage} (completes : Completes assembler reports message) :
    ∃ first rest, reports = first :: rest := by
  cases completes with
  | last => exact ⟨_, _, rfl⟩
  | more => exact ⟨_, _, rfl⟩

/-! ## The reports of a message -/

open Report

/-- A message of which some reports have been taken: the others complete it. -/
theorem completes_continuations {id : UInt16} {length : Nat} (rest : Bytes) (more : rest ≠ [])
    {received : Bytes} (total : received.length + rest.length = length) :
    Completes (.collecting id length received) (continuations rest) ⟨id, received ++ rest⟩ := by
  fun_induction continuations rest generalizing received with
  | case1 => exact absurd rfl more
  | case2 byte tail hypothesis =>
      have pushed := push_continuation id total
      rw [settle_eq] at pushed
      by_cases last : (byte :: tail).length ≤ continuationChunk
      · have whole : (byte :: tail).take continuationChunk = byte :: tail :=
          List.take_of_length_le last
        have nothing : (byte :: tail).drop continuationChunk = [] := List.drop_of_length_le last
        rw [whole, if_neg (by rw [List.length_append]; omega)] at pushed
        rw [nothing, whole, continuations]
        exact .last pushed
      · rw [if_pos (by rw [List.length_append, List.length_take]; omega)] at pushed
        refine .more pushed ?_
        have others := @hypothesis (by simp only [ne_eq, List.drop_eq_nil_iff]; omega)
          (received ++ (byte :: tail).take continuationChunk)
          (by rw [List.length_append, List.length_take, List.length_drop]; omega)
        rwa [List.append_assoc, List.take_append_drop] at others

/-- The reports that a message is split into complete it. -/
theorem completes_packetize {message : RawMessage} {reports : List Report}
    (framed : message.packetize = .ok reports) : Completes .idle reports message := by
  unfold RawMessage.packetize at framed
  split at framed
  · rename_i fits
    cases framed
    have pushed := push_first fits
    rw [settle_eq] at pushed
    by_cases short : message.payload.length ≤ firstChunk
    · have whole : message.payload.take firstChunk = message.payload :=
        List.take_of_length_le short
      have nothing : message.payload.drop firstChunk = [] := List.drop_of_length_le short
      rw [whole, if_neg (Nat.lt_irrefl _)] at pushed
      rw [nothing, continuations]
      exact .last pushed
    · rw [if_pos (by rw [List.length_take]; omega)] at pushed
      refine .more pushed ?_
      have others := @completes_continuations message.id message.payload.length
        (message.payload.drop firstChunk)
        (by simp only [ne_eq, List.drop_eq_nil_iff]; omega)
        (message.payload.take firstChunk)
        (by rw [List.length_take, List.length_drop]; omega)
      rwa [List.take_append_drop] at others
  · cases framed

/-! ## Reports that are refused -/

/-- What a reassembler refuses is badly encoded. -/
theorem encoding_of_push {report : Report} {assembler next : Reassembler}
    {error : Error} (pushed : push report assembler = .error error next) :
    ∃ fault, error = .encoding fault := by
  cases assembler with
  | idle =>
      rw [push_idle] at pushed
      split at pushed
      · rw [settle_eq] at pushed
        split at pushed <;> cases pushed
      · cases pushed
        exact ⟨_, rfl⟩
  | collecting id length received =>
      rw [push_collecting] at pushed
      split at pushed
      · rw [settle_eq] at pushed
        split at pushed <;> cases pushed
      · cases pushed
        exact ⟨_, rfl⟩

end Reassembler
end SecurityKey
