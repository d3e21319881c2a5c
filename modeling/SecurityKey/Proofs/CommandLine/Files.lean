import SecurityKey.CommandLine.Storage

/-!
# Files that are found again

A change at one place is seen there and nowhere else (`at?_set`, `at?_set_of_ne`).  A walk that
arrives has entered directories only, so it does not notice a change at a place that was none
(`walk_set`).

A path is `Writable` if a file is there or may be made.  What is written to it is what it leads
to afterwards (`lookup_of_write`).
-/

set_option autoImplicit false

namespace SecurityKey.CommandLine.Disk

variable {disk : Disk} {place : Place}

/-! ## Places -/

theorem at?_set (nested : place ≠ []) (entry : Entry) (disk : Disk) :
    (disk.set place entry).at? place = some entry := by
  rw [at?, if_neg nested, set, List.lookup_cons_self]

theorem lookup_filter_of_ne {other : Place} (apart : other ≠ place)
    (entries : List (Place × Entry)) :
    (entries.filter fun entry => entry.1 ≠ place).lookup other = entries.lookup other := by
  induction entries with
  | nil => rfl
  | cons first entries hypothesis =>
      by_cases same : first.1 = place
      · have differs : (other == first.1) = false := beq_false_of_ne (same ▸ apart)
        rw [List.filter_cons_of_neg (by simpa using same), hypothesis, List.lookup_cons, differs]
      · rw [List.filter_cons_of_pos (by simpa using same), List.lookup_cons, List.lookup_cons,
          hypothesis]

theorem at?_set_of_ne {other : Place} (apart : other ≠ place) (entry : Entry) (disk : Disk) :
    (disk.set place entry).at? other = disk.at? other := by
  have differs : (other == place) = false := beq_false_of_ne apart
  rw [at?, at?, set, List.lookup_cons, differs]
  simp only
  rw [lookup_filter_of_ne apart]

/-! ## Walks -/

theorem enter_eq_ok : disk.enter place = .ok () ↔ disk.at? place = some .directory := by
  rw [enter]
  constructor
  · intro entered
    split at entered
    · assumption
    · cases entered
    · cases entered
  · intro held
    rw [held]

theorem step_set {start reached : Place} {name : List Char}
    (noDirectory : disk.at? place ≠ some .directory) (entry : Entry)
    (ran : disk.step start name = .ok reached) :
    (disk.set place entry).step start name = .ok reached := by
  obtain ⟨_, entered, moved⟩ := bind_eq_ok.mp ran
  have apart : start ≠ place := by
    rintro rfl
    exact noDirectory (enter_eq_ok.mp entered)
  have again : (disk.set place entry).enter start = .ok () := by
    rw [enter_eq_ok, at?_set_of_ne apart, ← enter_eq_ok, entered]
  exact bind_eq_ok.mpr ⟨(), again, moved⟩

/-- A walk that arrives does not notice a change at a place that is no directory. -/
theorem walk_set {start reached : Place} {names : List (List Char)}
    (noDirectory : disk.at? place ≠ some .directory) (entry : Entry)
    (ran : disk.walk start names = .ok reached) :
    (disk.set place entry).walk start names = .ok reached := by
  induction names generalizing start with
  | nil => exact ran
  | cons name names hypothesis =>
      obtain ⟨next, stepped, further⟩ := bind_eq_ok.mp ran
      exact bind_eq_ok.mpr ⟨next, step_set noDirectory entry stepped, hypothesis further⟩

/-- Where a file may be made, the whole path leads there, and no slash ends it. -/
theorem resolve_of_resolveNew {path : String} (found : disk.resolveNew path = .ok place) :
    disk.resolve path = .ok place ∧ Path.endsInSlash path.toList = false := by
  obtain ⟨_, allowed, walks⟩ := bind_eq_ok.mp found
  obtain ⟨directory, walked, enters⟩ := bind_eq_ok.mp walks
  obtain ⟨_, _, ends⟩ := bind_eq_ok.mp enters
  cases last : (Path.names path.toList).getLast? with
  | none =>
      rw [last] at ends
      cases ends
  | some name =>
      rw [last] at ends
      dsimp only at ends
      split at ends
      · cases ends
      · rename_i noSlash
        obtain ⟨front, spelled⟩ := List.getLast?_eq_some_iff.mp last
        rw [spelled, List.dropLast_concat] at walked
        have arrives : disk.walk (disk.start path) (Path.names path.toList) = .ok place := by
          rw [spelled, walk_append]
          exact bind_eq_ok.mpr ⟨directory, walked, bind_eq_ok.mpr ⟨place, ends, rfl⟩⟩
        exact ⟨bind_eq_ok.mpr ⟨(), allowed, arrives⟩, Bool.eq_false_iff.mpr noSlash⟩

/-! ## Writing -/

/-- A file is at a path or may be made there. -/
def Writable (path : String) (disk : Disk) : Prop :=
  ∃ place, disk.resolveNew path = .ok place ∧
    disk.at? place ≠ some .directory ∧ disk.at? place ≠ some .sink

/-- What is written to a path is what the path leads to. -/
theorem lookup_of_write {path : String} (writable : disk.Writable path) (content : Bytes) :
    ∃ written, disk.write path content = .ok written ∧
      written.lookup path = .ok (.file content) := by
  obtain ⟨place, found, noDirectory, noSink⟩ := writable
  obtain ⟨leads, noSlash⟩ := resolve_of_resolveNew found
  refine ⟨disk.set place (.file content), bind_eq_ok.mpr ⟨place, found, ?_⟩, ?_⟩
  · split
    · rename_i held
      exact absurd held noDirectory
    · rename_i held
      exact absurd held noSink
    · rfl
  · obtain ⟨_, allowed, arrives⟩ := bind_eq_ok.mp leads
    have nested : place ≠ [] := by
      rintro rfl
      exact noDirectory rfl
    have again : (disk.set place (.file content)).resolve path = .ok place :=
      bind_eq_ok.mpr ⟨(), allowed, walk_set noDirectory _ arrives⟩
    refine bind_eq_ok.mpr ⟨place, again, ?_⟩
    rw [at?_set nested]
    dsimp only
    rw [noSlash]
    rfl

end SecurityKey.CommandLine.Disk
