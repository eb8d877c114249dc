import Foldmark.Proofs.Config.Session
import Foldmark.Proofs.Location

/-! Where the configuration file is looked for: in the present directory, and then in those that it lies in. One that is
made is found in the present directory from then on. -/
namespace Foldmark.ConfigFile

/-- The places in outer directories where a configuration file is looked for. -/
def outer (s : Store) : List Location := (Store.ancestors s.here.loc).tail.map (· ++ [fileName])

/-- The place in the present directory. -/
def inner (s : Store) : Location := s.here.loc ++ [fileName]

/-- Whether no configuration file in an outer directory is the nearest one. -/
def Innermost (s : Store) : Prop := (s.entry? (inner s)).isSome = true ∨ ∀ loc ∈ outer s, s.entry? loc = none

variable {s s₁ : Store}

theorem nearest?_eq (s : Store) :
    s.nearest? fileName = (inner s :: outer s).find? fun loc => (s.entry? loc).isSome := by
  rw [Store.nearest?, Store.ancestors_eq]
  rfl

theorem path_of_innermost (innermost : Innermost s) : path s none = s.pathOf (inner s) := by
  have nearest : (s.nearest? fileName).getD (inner s) = inner s := by
    rw [nearest?_eq, List.find?_cons]
    rcases innermost with there | nowhere
    · rw [there]
      rfl
    · have none' : (outer s).find? (fun loc => (s.entry? loc).isSome) = none := by
        rw [List.find?_eq_none]
        intro loc member
        simp [nowhere loc member]
      cases (s.entry? (inner s)).isSome <;> simp [none']
  exact congrArg s.pathOf nearest

theorem name_fileName : Path.IsName fileName := by decide +kernel

theorem names_nearest {loc : Location} (member : loc ∈ inner s :: outer s) :
    loc ≠ [] ∧ ∀ part ∈ loc, Path.IsName part := by
  have inside : ∃ directory ∈ Store.ancestors s.here.loc, loc = directory ++ [fileName] := by
    rw [Store.ancestors_eq]
    rcases List.mem_cons.mp member with rfl | further
    · exact ⟨s.here.loc, List.mem_cons_self, rfl⟩
    · obtain ⟨directory, isOuter, rfl⟩ := List.mem_map.mp further
      exact ⟨directory, List.mem_cons_of_mem _ isOuter, rfl⟩
  obtain ⟨directory, isAncestor, rfl⟩ := inside
  refine ⟨by simp, fun part inside => ?_⟩
  rcases List.mem_append.mp inside with above | last
  · exact s.here.names part ((Store.prefix_of_mem_ancestors isAncestor).subset above)
  · exact List.mem_singleton.mp last ▸ name_fileName

theorem inner_of_created (absent : s.holds (path s none) = false)
    (created : (Action.create (path s none)).runOn s = (.ok (), s₁)) :
    s.locate? (path s none) = some (inner s) ∧ ∀ loc ∈ outer s, s.entry? loc = none := by
  have written := Action.write?_of_save ((Action.runOn_create_of_absent absent).symm.trans created)
  obtain ⟨found, located, -⟩ := Store.write?_eq written
  have nearest := nearest?_eq s
  rw [path, Option.getD_none] at located absent ⊢
  cases there : s.nearest? fileName with
  | some loc =>
    rw [there] at nearest located absent
    obtain ⟨occupied, isNames⟩ := names_nearest (List.mem_of_find?_eq_some nearest.symm)
    cases Store.locate?_pathOf occupied isNames located
    have holds : s.holds (s.pathOf found) = true := by
      have stands := List.find?_some nearest.symm
      rw [Store.holds, show s.locate? (s.pathOf found) = some found from located]
      exact stands
    cases holds.symm.trans absent
  | none =>
    rw [there] at nearest located
    have nowhere := List.find?_eq_none.mp nearest.symm
    obtain ⟨occupied, isNames⟩ := names_nearest (List.mem_cons_self (a := inner s) (l := outer s))
    cases Store.locate?_pathOf occupied isNames located
    exact ⟨located, fun loc member => by simpa using nowhere loc (List.mem_cons_of_mem _ member)⟩

section Written

variable {file : String} {text : Option String} {s' : Store} (written : s.write? file text = some s')

include written

theorem inner_write : inner s' = inner s := by rw [inner, Store.here_write written, inner]

theorem outer_write : outer s' = outer s := by rw [outer, Store.here_write written, outer]

theorem there_write_inner (located : s.locate? file = some (inner s)) : (s'.entry? (inner s')).isSome = true := by
  have there := Store.bind_entry?_write written file
  rw [Store.locate?_write written, if_pos rfl, located, Option.bind_some] at there
  rw [inner_write written]
  exact there ▸ rfl

theorem innermost_write (innermost : Innermost s) (elsewhere : ∀ loc ∈ outer s, s.locate? file ≠ some loc) :
    Innermost s' := by
  rw [Innermost, inner_write written, outer_write written]
  refine innermost.imp (Store.there_write written) fun nowhere loc member => ?_
  obtain ⟨place, located, noDirectory, -, rfl⟩ := Store.write?_eq written
  rw [Store.entry?_put noDirectory, if_neg]
  · exact nowhere loc member
  · rintro rfl
    exact elsewhere loc member located

end Written

end Foldmark.ConfigFile
