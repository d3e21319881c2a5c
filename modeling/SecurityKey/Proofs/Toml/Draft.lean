import SecurityKey.Toml.Document
import SecurityKey.Toml.Printer

/-!
# Sections that have been read

After some sections of a document, what has been read of it holds a table for each of them
(`Draft.ofSections`).  A header with a name that is free adds a section without entries
(`header_ofSections`), and a key that is free adds an entry to the last section
(`insert_ofSections`).  Closing the draft gives the values of the sections
(`close_ofSections`).
-/

set_option autoImplicit false

namespace SecurityKey.Toml

/-! ## Slots -/

namespace Slots

/-- Slots with the given keys. -/
def ofList : List (String × Slot) → Slots
  | [] => .nil
  | (key, slot) :: rest => .cons key slot (ofList rest)

variable {key : String} {earlier : List (String × Slot)}

/-- A key is looked up behind slots that have other keys. -/
theorem find?_past (free : ∀ other ∈ earlier, other.1 ≠ key) (later : List (String × Slot)) :
    (ofList (earlier ++ later)).find? key = (ofList later).find? key := by
  induction earlier with
  | nil => rfl
  | cons other earlier hypothesis =>
      obtain ⟨first, others⟩ := List.forall_mem_cons.mp free
      rw [List.cons_append, ofList, find?, if_neg first, hypothesis others]

/-- A key is set behind slots that have other keys. -/
theorem set_past (free : ∀ other ∈ earlier, other.1 ≠ key) {slot : Slot}
    {later changed : List (String × Slot)}
    (sets : (ofList later).set key slot = ofList changed) :
    (ofList (earlier ++ later)).set key slot = ofList (earlier ++ changed) := by
  induction earlier with
  | nil => exact sets
  | cons other earlier hypothesis =>
      obtain ⟨first, others⟩ := List.forall_mem_cons.mp free
      rw [List.cons_append, ofList, set, if_neg first, hypothesis others]
      rfl

theorem find?_of_free (free : ∀ other ∈ earlier, other.1 ≠ key) :
    (ofList earlier).find? key = none := by
  have found := find?_past free []
  rwa [List.append_nil] at found

theorem set_of_free (free : ∀ other ∈ earlier, other.1 ≠ key) (slot : Slot) :
    (ofList earlier).set key slot = ofList (earlier ++ [(key, slot)]) := by
  have fresh : (ofList []).set key slot = ofList [(key, slot)] := rfl
  have sets := set_past free fresh
  rwa [List.append_nil] at sets

theorem set_last (free : ∀ other ∈ earlier, other.1 ≠ key) (old slot : Slot) :
    (ofList (earlier ++ [(key, old)])).set key slot = ofList (earlier ++ [(key, slot)]) :=
  set_past free (if_pos rfl)

end Slots

theorem Table.closeSlots_ofList (entries : List (String × Slot)) :
    closeSlots (Slots.ofList entries) = entries.map fun entry => (entry.1, closeSlot entry.2) := by
  induction entries with
  | nil => rfl
  | cons entry entries hypothesis =>
      rw [Slots.ofList, closeSlots, hypothesis]
      rfl

/-! ## Sections -/

namespace Section

/-- The table of a section, which has a header. -/
def table (part : Section) : Table :=
  .mk .declared (Slots.ofList (part.entries.map fun entry => (entry.1, .value entry.2.value)))

theorem close_table (part : Section) : part.table.close = part.value := by
  rw [table, Table.close, Table.closeSlots_ofList, List.map_map]
  rfl

/-- A value at a free key is put behind the others. -/
theorem put_table {name key : String} {taken : List (String × Scalar)}
    (free : ∀ other ∈ taken, other.1 ≠ key) (scalar : Scalar) :
    Table.put key scalar.value (table ⟨name, taken⟩) =
      .ok (table ⟨name, taken ++ [(key, scalar)]⟩) := by
  have freeSlot : ∀ other ∈ taken.map fun entry => (entry.1, Slot.value entry.2.value),
      other.1 ≠ key := by
    intro other member
    obtain ⟨entry, among, rfl⟩ := List.mem_map.mp member
    exact free entry among
  rw [table, Table.put, Slots.find?_of_free freeSlot, table, List.map_append,
    Slots.set_of_free freeSlot]
  rfl

end Section

namespace Draft

/-- What has been read after some sections, when keys belong to the given table. -/
def ofSections (parts : List Section) (current : List String) : Draft :=
  ⟨.mk .declared (Slots.ofList (parts.map fun part => (part.name, .table part.table))), current⟩

theorem close_ofSections (parts : List Section) (current : List String) :
    (ofSections parts current).root.close =
      .table (parts.map fun part => (part.name, part.value)) := by
  rw [ofSections, Table.close, Table.closeSlots_ofList, List.map_map]
  refine congrArg Value.table (List.map_congr_left fun part _ => ?_)
  exact congrArg (Prod.mk part.name) part.close_table

variable {name : String} {earlier : List Section}

theorem free_slot (free : ∀ other ∈ earlier, other.name ≠ name) :
    ∀ other ∈ earlier.map fun part => (part.name, Slot.table part.table), other.1 ≠ name := by
  intro other member
  obtain ⟨part, among, rfl⟩ := List.mem_map.mp member
  exact free part among

/-- A header with a free name adds a section. -/
theorem header_ofSections (free : ∀ other ∈ earlier, other.name ≠ name) (current : List String) :
    (ofSections earlier current).header false ([], name) =
      .ok (ofSections (earlier ++ [⟨name, []⟩]) [name]) := by
  have declared : (ofSections earlier current).root.declare [] name =
      .ok (ofSections (earlier ++ [⟨name, []⟩]) [name]).root := by
    rw [ofSections, Table.declare, Table.atPath, Table.slots, Slots.find?_of_free (free_slot free)]
    simp only
    rw [Slots.set_of_free (free_slot free), ofSections, List.map_append]
    rfl
  rw [header, if_neg Bool.false_ne_true, declared]
  rfl

/-- A free key adds an entry to the last section. -/
theorem insert_ofSections (free : ∀ other ∈ earlier, other.name ≠ name) {key : String}
    {taken : List (String × Scalar)} (freeKey : ∀ other ∈ taken, other.1 ≠ key)
    (scalar : Scalar) :
    (ofSections (earlier ++ [⟨name, taken⟩]) [name]).insert ([], key) scalar.value =
      .ok (ofSections (earlier ++ [⟨name, taken ++ [(key, scalar)]⟩]) [name]) := by
  have put : Table.insert [] key scalar.value (Section.table ⟨name, taken⟩) =
      .ok (Section.table ⟨name, taken ++ [(key, scalar)]⟩) := by
    rw [Table.insert, Table.atPath, if_neg fun wrong => wrong.1 rfl]
    exact Section.put_table freeKey scalar
  have grown : (ofSections (earlier ++ [⟨name, taken⟩]) [name]).root.atPath false
        (Table.insert [] key scalar.value) [name] =
      .ok (ofSections (earlier ++ [⟨name, taken ++ [(key, scalar)]⟩]) [name]).root := by
    rw [ofSections, List.map_append, List.map_singleton, Table.atPath,
      Slots.find?_past (free_slot free), Slots.ofList, Slots.find?, if_pos rfl]
    simp only
    rw [if_neg fun wrong => Bool.false_ne_true wrong.1, Table.atPath, put]
    change Except.ok (Table.mk _ (Slots.set _ _ _)) = _
    rw [Slots.set_last (free_slot free), ofSections, List.map_append]
    rfl
  rw [insert]
  change ((ofSections _ [name]).root.atPath false _ [name] >>= _) = _
  rw [grown]
  rfl

end Draft
end SecurityKey.Toml
