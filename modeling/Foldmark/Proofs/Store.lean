import Foldmark.Store

/-! What writing a file does to a store: the text is found where it was written, everything else stays,
and paths lead where they led. -/
namespace Foldmark.Store

def Writable (s : Store) (path : String) : Prop := ∀ text, (s.write? path text).isSome

variable {s s' : Store} {path file : String} {loc other : Location} {e : Entry} {text : Option String}

theorem lookup_filter_ne (entries : List (Location × Entry)) (apart : other ≠ loc) :
    (entries.filter fun old => old.1 ≠ loc).lookup other = entries.lookup other := by
  induction entries with
  | nil => rfl
  | cons first rest ih =>
    obtain ⟨place, e⟩ := first
    by_cases dropped : place = loc
    · subst dropped
      rw [List.filter_cons_of_neg (by simp), ih, List.lookup_cons, beq_eq_false_iff_ne.mpr apart]
    · rw [List.filter_cons_of_pos (by simpa using dropped), List.lookup_cons, List.lookup_cons, ih]

theorem entry?_put (file : s.entry? loc ≠ some .directory) (other : Location) :
    entry? (s.put loc e) other = if other = loc then some e else s.entry? other := by
  have below : loc ≠ [] := by
    rintro rfl
    exact file rfl
  by_cases same : other = loc
  · subst same
    simp [put, entry?, below]
  · have later : (s.put loc e).entries.lookup other = s.entries.lookup other := by
      rw [put, List.lookup_cons, beq_eq_false_iff_ne.mpr same]
      exact lookup_filter_ne s.entries same
    simp only [later, entry?, if_neg same]

theorem follow_congr (same : ∀ loc, s'.isDirectory loc = s.isDirectory loc) (directory : Location)
    (parts : List String) : s'.follow directory parts = s.follow directory parts := by
  induction parts generalizing directory with
  | nil => rfl
  | cons part rest ih => simp only [follow, same, ih]

theorem write?_eq (written : s.write? path text = some s') :
    ∃ loc, s.locate? path = some loc ∧ s.entry? loc ≠ some .directory ∧
      s.isDirectory loc.dropLast ∧ s' = s.put loc (.file text) := by
  rw [write?, Option.bind_eq_bind, Option.bind_eq_some_iff] at written
  obtain ⟨loc, located, written⟩ := written
  split at written
  · cases written
  · rename_i file
    split at written
    · rename_i parent
      cases written
      exact ⟨loc, located, file, parent, rfl⟩
    · cases written

theorem write?_isSome : (s.write? path text).isSome = true ↔
    ∃ loc, s.locate? path = some loc ∧ s.isDirectory loc = false ∧
      s.isDirectory loc.dropLast = true := by
  constructor
  · intro written
    obtain ⟨s', written⟩ := Option.isSome_iff_exists.mp written
    obtain ⟨loc, located, file, parent, -⟩ := write?_eq written
    exact ⟨loc, located, by simpa [isDirectory] using file, parent⟩
  · rintro ⟨loc, located, file, parent⟩
    rw [write?, located, Option.bind_eq_bind, Option.bind_some, if_pos parent]
    split
    · rename_i directory
      simp [isDirectory, directory] at file
    · rfl

theorem writable_of_isSome (written : (s.write? path text).isSome = true) : s.Writable path :=
  fun _ => write?_isSome.mpr (write?_isSome.mp written)

section Written

variable (written : s.write? path text = some s')

include written

theorem isDirectory_write (loc : Location) : s'.isDirectory loc = s.isDirectory loc := by
  obtain ⟨place, -, file, -, rfl⟩ := write?_eq written
  rw [isDirectory, isDirectory, entry?_put file]
  by_cases same : loc = place
  · subst same
    simp [file]
  · rw [if_neg same]

theorem locate?_write (file : String) : s'.locate? file = s.locate? file := by
  have start : s'.startOf? file = s.startOf? file := by
    obtain ⟨place, -, -, -, rfl⟩ := write?_eq written
    rfl
  simp only [locate?, start, follow_congr (isDirectory_write written)]

theorem bind_entry?_write (file : String) :
    (s'.locate? file).bind (fun loc => entry? s' loc) =
      if s.locate? file = s.locate? path then some (.file text) else (s.locate? file).bind s.entry? := by
  rw [locate?_write written]
  obtain ⟨place, located, noDirectory, -, rfl⟩ := write?_eq written
  rw [located]
  cases s.locate? file with
  | none => rfl
  | some loc => simp [entry?_put noDirectory]

theorem here_write : s'.here = s.here := by
  obtain ⟨loc, -, -, -, rfl⟩ := write?_eq written
  rfl

theorem pathOf_write (loc : Location) : s'.pathOf loc = s.pathOf loc := by
  obtain ⟨place, -, -, -, rfl⟩ := write?_eq written
  rfl

theorem there_write {loc : Location} (there : (s.entry? loc).isSome = true) : (s'.entry? loc).isSome = true := by
  obtain ⟨place, -, noDirectory, -, rfl⟩ := write?_eq written
  rw [entry?_put noDirectory]
  split
  · rfl
  · exact there

theorem holds_write : s'.holds path = true := by
  rw [holds, bind_entry?_write written, if_pos rfl]
  rfl

theorem read?_write : s'.read? path = text := by
  have here := bind_entry?_write written path
  rw [if_pos rfl, Option.bind_eq_some_iff] at here
  obtain ⟨loc, located, found⟩ := here
  simp [read?, located, found]

theorem read?_write_of_ne (apart : s.locate? file ≠ s.locate? path) : s'.read? file = s.read? file := by
  have here := bind_entry?_write written file
  rw [if_neg apart, locate?_write written] at here
  simp only [read?, locate?_write written]
  cases located : s.locate? file with
  | none => rfl
  | some loc =>
    rw [located] at here
    simp only [Option.bind_some] at here
    simp [here]

theorem writable_write : s'.Writable path := by
  intro text'
  rw [write?_isSome, locate?_write written]
  simp only [isDirectory_write written]
  rw [← write?_isSome, written]
  rfl

end Written

end Foldmark.Store
