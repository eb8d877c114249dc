/-! Maps from texts to values, kept in the order of their keys. The order is part of the type, so two
maps with the same entries are equal. -/
namespace Foldmark

namespace Entries

variable {α : Type}

def Ordered (entries : List (String × α)) : Prop := entries.Pairwise fun a b => a.1 < b.1

/-- Puts what `change` makes of the present value, if there is one, under a key. -/
def alter (key : String) (change : Option α → α) : List (String × α) → List (String × α)
  | [] => [(key, change none)]
  | (k, v) :: rest =>
    if key < k then (key, change none) :: (k, v) :: rest
    else if k < key then (k, v) :: alter key change rest
    else (key, change (some v)) :: rest

theorem fst_of_mem_alter {key : String} {change : Option α → α} {entries : List (String × α)}
    {e : String × α} (h : e ∈ alter key change entries) :
    e.1 = key ∨ ∃ old ∈ entries, old.1 = e.1 := by
  induction entries with
  | nil =>
    simp only [alter, List.mem_singleton] at h
    exact .inl (h ▸ rfl)
  | cons first rest ih =>
    obtain ⟨k, v⟩ := first
    simp only [alter] at h
    split at h
    · rcases List.mem_cons.1 h with rfl | h
      · exact .inl rfl
      · exact .inr ⟨e, h, rfl⟩
    · split at h
      · rcases List.mem_cons.1 h with rfl | h
        · exact .inr ⟨(k, v), List.mem_cons_self, rfl⟩
        · rcases ih h with h | ⟨old, mem, same⟩
          · exact .inl h
          · exact .inr ⟨old, List.mem_cons_of_mem _ mem, same⟩
      · rcases List.mem_cons.1 h with rfl | h
        · exact .inl rfl
        · exact .inr ⟨e, List.mem_cons_of_mem _ h, rfl⟩

theorem ordered_alter {key : String} {change : Option α → α} {entries : List (String × α)}
    (h : Ordered entries) : Ordered (alter key change entries) := by
  induction entries with
  | nil => simp [alter, Ordered]
  | cons first rest ih =>
    obtain ⟨k, v⟩ := first
    have ⟨first_le, rest_ordered⟩ := List.pairwise_cons.1 h
    simp only [alter]
    split
    next before =>
      refine List.pairwise_cons.2 ⟨fun e mem => ?_, h⟩
      rcases List.mem_cons.1 mem with rfl | mem
      · exact before
      · exact String.lt_trans before (first_le e mem)
    next not_before =>
      split
      next after =>
        refine List.pairwise_cons.2 ⟨fun e mem => ?_, ih rest_ordered⟩
        rcases fst_of_mem_alter mem with same | ⟨old, mem, same⟩
        · exact same ▸ after
        · exact same ▸ first_le old mem
      next not_after =>
        have same : key = k :=
          String.le_antisymm (String.not_lt.1 not_after) (String.not_lt.1 not_before)
        refine List.pairwise_cons.2 ⟨fun e mem => ?_, rest_ordered⟩
        exact same ▸ first_le e mem

end Entries

/-- A map from texts, in ascending order of code points. -/
structure KeyMap (α : Type) where
  entries : List (String × α)
  ordered : Entries.Ordered entries

namespace KeyMap

variable {α : Type}

def empty : KeyMap α := ⟨[], List.Pairwise.nil⟩

instance : Inhabited (KeyMap α) := ⟨empty⟩

def isEmpty (m : KeyMap α) : Bool := m.entries.isEmpty

def get? (m : KeyMap α) (key : String) : Option α := m.entries.lookup key

def contains (m : KeyMap α) (key : String) : Bool := (m.get? key).isSome

/-- Puts what `change` makes of the present value, if there is one, under a key. -/
def alter (m : KeyMap α) (key : String) (change : Option α → α) : KeyMap α :=
  ⟨Entries.alter key change m.entries, Entries.ordered_alter m.ordered⟩

def insert (m : KeyMap α) (key : String) (value : α) : KeyMap α := m.alter key fun _ => value

def filter (m : KeyMap α) (keep : String → α → Bool) : KeyMap α :=
  ⟨m.entries.filter fun e => keep e.1 e.2, m.ordered.filter _⟩

def erase (m : KeyMap α) (key : String) : KeyMap α := m.filter fun k _ => k ≠ key

/-- The map of some entries; of two with one key the later one counts. -/
def ofList (entries : List (String × α)) : KeyMap α :=
  entries.foldl (fun m e => m.insert e.1 e.2) empty

theorem ext {m n : KeyMap α} (h : m.entries = n.entries) : m = n := by
  cases m; cases n; cases h; rfl

end KeyMap

end Foldmark
