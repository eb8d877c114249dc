import Mathlib.Data.List.Perm.Basic
import Mathlib.Data.List.Nodup
import Foldmark.KeyMap

/-! What is found in a map after it was changed. Two maps in which the same is found under every key are
equal, so a change is told by what it does to lookups. -/
namespace Foldmark

namespace Entries

variable {α : Type} {entries other : List (String × α)} {key : String} {value : α}

theorem Ordered.distinct (ordered : Ordered entries) : (entries.map (·.1)).Nodup :=
  List.pairwise_map.mpr (ordered.imp fun before => String.ne_of_lt before)

theorem lookup_cons (k : String) (v : α) (rest : List (String × α)) (key : String) :
    ((k, v) :: rest).lookup key = if key = k then some v else rest.lookup key := by
  by_cases same : key = k
  · simp [same]
  · rw [List.lookup_cons, beq_eq_false_iff_ne.mpr same, if_neg same]

theorem mem_of_lookup (found : entries.lookup key = some value) : (key, value) ∈ entries := by
  obtain ⟨before, after, rfl, -⟩ := List.lookup_eq_some_iff.mp found
  simp

theorem mem_iff_lookup (distinct : (entries.map (·.1)).Nodup) :
    (key, value) ∈ entries ↔ entries.lookup key = some value := by
  induction entries with
  | nil => simp
  | cons first rest ih =>
    obtain ⟨k, v⟩ := first
    rw [List.map_cons, List.nodup_cons] at distinct
    rw [List.mem_cons, lookup_cons]
    by_cases same : key = k
    · subst same
      have absent : (key, value) ∉ rest := fun member =>
        distinct.1 (List.mem_map_of_mem (f := (·.1)) member)
      simp [absent, eq_comm]
    · simp [same, ih distinct.2]

theorem lookup_perm (distinct : (entries.map (·.1)).Nodup) (same : entries.Perm other) (key : String) :
    entries.lookup key = other.lookup key := by
  have distinct' : (other.map (·.1)).Nodup := (same.map _).nodup_iff.mp distinct
  apply Option.ext
  intro value
  rw [← mem_iff_lookup distinct, ← mem_iff_lookup distinct']
  exact same.mem_iff

theorem lookup_eq_none_of_notMem (absent : key ∉ entries.map (·.1)) : entries.lookup key = none := by
  rw [List.lookup_eq_none_iff]
  intro e member
  have apart : key ≠ e.1 := by
    rintro rfl
    exact absent (List.mem_map_of_mem member)
  exact bne_iff_ne.mpr apart

theorem lookup_eq_none_of_lt (after : ∀ e ∈ entries, key < e.1) : entries.lookup key = none := by
  apply lookup_eq_none_of_notMem
  intro member
  obtain ⟨e, here, rfl⟩ := List.mem_map.mp member
  exact String.lt_irrefl _ (after e here)

theorem lookup_alter (ordered : Ordered entries) (change : Option α → α) (wanted : String) :
    (alter key change entries).lookup wanted =
      if wanted = key then some (change (entries.lookup key)) else entries.lookup wanted := by
  induction entries with
  | nil =>
    by_cases same : wanted = key <;> simp [alter, lookup_cons, same]
  | cons first rest ih =>
    obtain ⟨k, v⟩ := first
    obtain ⟨before, rest_ordered⟩ := List.pairwise_cons.mp ordered
    simp only [alter]
    split
    · rename_i less
      have absent : ((k, v) :: rest).lookup key = none := by
        apply lookup_eq_none_of_lt
        intro e member
        rcases List.mem_cons.mp member with rfl | later
        · exact less
        · exact String.lt_trans less (before e later)
      rw [absent, lookup_cons]
    · rename_i not_less
      split
      · rename_i greater
        have other : key ≠ k := (String.ne_of_lt greater).symm
        rw [lookup_cons, ih rest_ordered, lookup_cons, if_neg other, lookup_cons]
        by_cases first : wanted = k
        · subst first
          rw [if_pos rfl, if_neg other.symm, if_pos rfl]
        · rw [if_neg first, if_neg first]
      · rename_i not_greater
        have same : key = k := String.le_antisymm (String.not_lt.mp not_greater) (String.not_lt.mp not_less)
        subst same
        rw [lookup_cons, lookup_cons, lookup_cons, if_pos rfl]
        by_cases found : wanted = key
        · rw [if_pos found, if_pos found]
        · rw [if_neg found, if_neg found, if_neg found]

theorem lookup_filter (distinct : (entries.map (·.1)).Nodup) (keep : String → α → Bool) (key : String) :
    (entries.filter fun e => keep e.1 e.2).lookup key = (entries.lookup key).filter (keep key) := by
  have kept : ((entries.filter fun e => keep e.1 e.2).map (·.1)).Nodup :=
    distinct.sublist ((List.filter_sublist).map _)
  apply Option.ext
  intro value
  rw [← mem_iff_lookup kept, List.mem_filter, mem_iff_lookup distinct, Option.filter_eq_some_iff]

theorem lookup_of_only (here : (key, value) ∈ entries) (only : ∀ e ∈ entries, e.1 = key → e.2 = value) :
    entries.lookup key = some value := by
  cases found : entries.lookup key with
  | none => simpa using List.lookup_eq_none_iff.mp found _ here
  | some other =>
    obtain ⟨before, after, rfl, -⟩ := List.lookup_eq_some_iff.mp found
    rw [← only (key, other) (by simp) rfl]

theorem flatMap_lookup {entries : List (String × List α)} (distinct : (entries.map (·.1)).Nodup)
    (key : String) :
    (entries.flatMap fun e => if e.1 = key then e.2 else []) = (entries.lookup key).getD [] := by
  induction entries with
  | nil => rfl
  | cons first rest ih =>
    obtain ⟨k, v⟩ := first
    rw [List.map_cons, List.nodup_cons] at distinct
    rw [List.flatMap_cons, ih distinct.2, lookup_cons]
    by_cases same : key = k
    · subst same
      rw [lookup_eq_none_of_notMem distinct.1]
      simp
    · simp [same, Ne.symm same]

end Entries

namespace KeyMap

variable {α : Type} {m n : KeyMap α} {key wanted : String}

instance [DecidableEq α] : DecidableEq (KeyMap α) := fun m n =>
  decidable_of_iff (m.entries = n.entries) ⟨ext, fun same => same ▸ rfl⟩

theorem mem_entries_iff {value : α} : (key, value) ∈ m.entries ↔ m.get? key = some value :=
  Entries.mem_iff_lookup m.ordered.distinct

theorem get?_alter (m : KeyMap α) (key : String) (change : Option α → α) (wanted : String) :
    (m.alter key change).get? wanted =
      if wanted = key then some (change (m.get? key)) else m.get? wanted :=
  Entries.lookup_alter m.ordered change wanted

theorem get?_insert (m : KeyMap α) (key : String) (value : α) (wanted : String) :
    (m.insert key value).get? wanted = if wanted = key then some value else m.get? wanted :=
  get?_alter m key _ wanted

theorem get?_erase (m : KeyMap α) (key wanted : String) :
    (m.erase key).get? wanted = if wanted = key then none else m.get? wanted := by
  rw [get?, erase, filter, Entries.lookup_filter m.ordered.distinct fun k _ => k ≠ key, get?]
  by_cases same : wanted = key
  · simp [same]
  · cases m.entries.lookup wanted <;> simp [same]

theorem ext_get? (same : ∀ key, m.get? key = n.get? key) : m = n := by
  apply ext
  have nodup {p : KeyMap α} : p.entries.Nodup := p.ordered.distinct.of_map
  have alike : m.entries.Perm n.entries := by
    rw [List.perm_ext_iff_of_nodup nodup nodup]
    rintro ⟨key, value⟩
    rw [mem_entries_iff, mem_entries_iff, same key]
  apply List.Perm.eq_of_pairwise _ m.ordered n.ordered alike
  intro a b _ _ before after
  exact absurd before (String.lt_asymm after)

theorem get?_foldl_insert (entries : List (String × α)) (m : KeyMap α) (key : String) :
    (entries.foldl (fun m e => m.insert e.1 e.2) m).get? key =
      (entries.reverse.lookup key).or (m.get? key) := by
  induction entries generalizing m with
  | nil => rfl
  | cons first rest ih =>
    rw [List.foldl_cons, ih, get?_insert, List.reverse_cons, List.lookup_append, Option.or_assoc,
      Entries.lookup_cons]
    by_cases same : key = first.1 <;> simp [same]

theorem get?_ofList (entries : List (String × α)) (key : String) :
    (ofList entries).get? key = entries.reverse.lookup key := by
  rw [ofList, get?_foldl_insert]
  exact Option.or_none

theorem ofList_perm {entries : List (String × α)} (same : entries.Perm m.entries) :
    ofList entries = m := by
  apply ext_get?
  intro key
  have distinct : (m.entries.map (·.1)).Nodup := m.ordered.distinct
  have turned : m.entries.Perm entries.reverse := (same.symm).trans entries.reverse_perm.symm
  rw [get?_ofList, ← Entries.lookup_perm distinct turned]
  rfl

theorem mem_of_mem_ofList {entries : List (String × α)} {e : String × α}
    (member : e ∈ (ofList entries).entries) : e ∈ entries := by
  have found := mem_entries_iff.mp member
  rw [get?_ofList, List.lookup_eq_some_iff] at found
  obtain ⟨before, after, turned, -⟩ := found
  rw [← List.mem_reverse, turned]
  simp

theorem entries_ofList_perm {entries : List (String × α)} (distinct : (entries.map (·.1)).Nodup) :
    (ofList entries).entries.Perm entries := by
  rw [List.perm_ext_iff_of_nodup (ofList entries).ordered.distinct.of_map distinct.of_map]
  rintro ⟨key, value⟩
  rw [mem_entries_iff, get?_ofList, ← Entries.lookup_perm distinct entries.reverse_perm.symm,
    Entries.mem_iff_lookup distinct]

end KeyMap

end Foldmark
