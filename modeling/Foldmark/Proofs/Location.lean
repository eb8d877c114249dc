import Foldmark.Proofs.Store

/-! Locations and their absolute paths. A location whose parts are names is found again by its path. -/
namespace Foldmark

namespace Path

theorem split_name {name : List Char} (whole : '/' ∉ name) : split name = [name] := by
  induction name with
  | nil => rfl
  | cons c rest ih =>
    rw [List.mem_cons, not_or] at whole
    rw [split, if_neg (Ne.symm whole.1), ih whole.2]

theorem split_name_slash {name : List Char} (whole : '/' ∉ name) (rest : List Char) :
    split (name ++ '/' :: rest) = name :: split rest := by
  induction name with
  | nil => rfl
  | cons c name ih =>
    rw [List.mem_cons, not_or] at whole
    rw [List.cons_append, split, if_neg (Ne.symm whole.1), ih whole.2]

theorem split_join (first : String) (rest : List String) (names : ∀ part ∈ first :: rest, IsName part) :
    split (first.toList ++ rest.flatMap fun part => '/' :: part.toList) = (first :: rest).map String.toList := by
  induction rest generalizing first with
  | nil =>
    rw [List.flatMap_nil, List.append_nil]
    exact split_name (names first List.mem_cons_self).whole
  | cons second rest ih =>
    obtain ⟨own, others⟩ := List.forall_mem_cons.mp names
    rw [List.flatMap_cons, List.cons_append, split_name_slash own.whole, ih second others]
    rfl

end Path

namespace Store

variable {s : Store} {loc found : Location}

theorem toList_pathOf (s : Store) (loc : Location) :
    (s.pathOf loc).toList = s.base.toList ++ loc.flatMap fun part => '/' :: part.toList := by
  rw [pathOf, String.toList_append, String.toList_join, List.flatMap_map]
  simp

theorem startOf?_pathOf (occupied : loc ≠ []) (names : ∀ part ∈ loc, Path.IsName part) :
    s.startOf? (s.pathOf loc) = some ([], loc) := by
  obtain ⟨first, rest, rfl⟩ := List.exists_cons_of_ne_nil occupied
  have written : (s.pathOf (first :: rest)).toList =
      (s.base.toList ++ ['/']) ++ (first.toList ++ rest.flatMap fun part => '/' :: part.toList) := by
    rw [toList_pathOf]
    simp
  have inside : (s.base.toList ++ ['/']).isPrefixOf (s.pathOf (first :: rest)).toList = true := by
    rw [written, List.isPrefixOf_iff_prefix]
    exact List.prefix_append _ _
  rw [startOf?]
  simp only [inside, if_true]
  rw [written, List.drop_left, Path.split_join first rest names, List.map_map]
  simp

theorem follow_names (names : ∀ part ∈ loc, Path.IsName part) {directory : Location}
    (followed : s.follow directory loc = some found) : found = directory ++ loc := by
  induction loc generalizing directory with
  | nil =>
    rw [List.append_nil]
    exact (Option.some.inj followed).symm
  | cons part rest ih =>
    obtain ⟨own, others⟩ := List.forall_mem_cons.mp names
    rw [follow] at followed
    split at followed
    · cases followed
    · rw [if_neg (by simp [own.occupied, own.counts]), if_neg own.inward] at followed
      rw [ih others followed, List.append_assoc, List.singleton_append]

theorem locate?_pathOf (occupied : loc ≠ []) (names : ∀ part ∈ loc, Path.IsName part)
    (located : s.locate? (s.pathOf loc) = some found) : found = loc := by
  rw [locate?, startOf?_pathOf occupied names] at located
  exact (follow_names names located).trans (List.nil_append loc)

theorem ancestors_eq (here : Location) : ancestors here = here :: (ancestors here).tail := by
  induction here with
  | nil => rfl
  | cons part rest ih =>
    rw [ancestors, ih]
    rfl

theorem prefix_of_mem_ancestors {here directory : Location} (member : directory ∈ ancestors here) :
    directory <+: here := by
  induction here generalizing directory with
  | nil => exact List.mem_singleton.mp member ▸ List.prefix_refl []
  | cons part rest ih =>
    rcases List.mem_append.mp member with below | top
    · obtain ⟨inside, isAncestor, rfl⟩ := List.mem_map.mp below
      exact List.cons_prefix_cons.mpr ⟨rfl, ih isAncestor⟩
    · exact List.mem_singleton.mp top ▸ List.nil_prefix

end Store

end Foldmark
