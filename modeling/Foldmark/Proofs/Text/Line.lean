import Foldmark.Text.Line

/-! Places and bytes. An offset counts the bytes in front of it, and is a boundary if these are whole
characters; then it has a place, and later places have more bytes in front of them. -/
namespace Foldmark.Line

theorem byteCount_append (first second : List Char) :
    byteCount (first ++ second) = byteCount first + byteCount second := by
  induction first with
  | nil => simp [byteCount]
  | cons c rest ih =>
    simp only [List.cons_append, byteCount, ih]
    omega

theorem byteCount_pos {chars : List Char} (h : chars ≠ []) : 0 < byteCount chars := by
  cases chars with
  | nil => exact absurd rfl h
  | cons c rest =>
    have := c.utf8Size_pos
    simp only [byteCount]
    omega

theorem walk_byteCount (chars : List Char) (count place : Nat) (inside : count ≤ chars.length) :
    place?.walk chars (byteCount (chars.take count)) place = some (place + count) := by
  induction chars generalizing count place with
  | nil =>
    cases Nat.le_zero.mp inside
    rfl
  | cons c rest ih =>
    cases count with
    | zero => rfl
    | succ count =>
      have positive := c.utf8Size_pos
      have occupied : ¬c.utf8Size + byteCount (rest.take count) = 0 := by omega
      have behind : ¬c.utf8Size + byteCount (rest.take count) < c.utf8Size := by omega
      simp only [List.take_succ_cons, byteCount, place?.walk, if_neg occupied, if_neg behind,
        Nat.add_sub_cancel_left, ih count (place + 1) (Nat.le_of_succ_le_succ inside)]
      congr 1
      omega

theorem place?_byteOffset {line : Line} {place : Nat} (inside : place ≤ line.size) :
    line.place? (line.byteOffset place) = some place := by
  have walked := walk_byteCount line.toList place 0 (by simpa using inside)
  rwa [Nat.zero_add] at walked

theorem byteOffset_lt {line : Line} {place further : Nat} (later : place < further)
    (inside : further ≤ line.size) : line.byteOffset place < line.byteOffset further := by
  have split : line.toList.take further =
      line.toList.take place ++ (line.toList.drop place).take (further - place) := by
    rw [← List.take_add, Nat.add_sub_cancel' (Nat.le_of_lt later)]
  have between : (line.toList.drop place).take (further - place) ≠ [] := by
    refine List.ne_nil_of_length_pos ?_
    simp only [List.length_take, List.length_drop, Array.length_toList]
    omega
  have := byteCount_pos between
  simp only [byteOffset, split, byteCount_append]
  omega

theorem walk_eq_some {chars : List Char} {left first place : Nat} (walked : place?.walk chars left first = some place) :
    ∃ count ≤ chars.length, place = first + count ∧ byteCount (chars.take count) = left := by
  induction chars generalizing left first with
  | nil =>
    simp only [place?.walk] at walked
    split at walked
    · cases walked
      exact ⟨0, Nat.le_refl _, rfl, Eq.symm ‹_›⟩
    · cases walked
  | cons c rest ih =>
    simp only [place?.walk] at walked
    split at walked
    · cases walked
      exact ⟨0, Nat.zero_le _, rfl, Eq.symm ‹_›⟩
    · split at walked
      · cases walked
      · obtain ⟨count, inside, rfl, left'⟩ := ih walked
        refine ⟨count + 1, Nat.succ_le_succ inside, by omega, ?_⟩
        simp only [List.take_succ_cons, byteCount, left']
        omega

theorem place?_eq_some {line : Line} {bytes place : Nat} (found : line.place? bytes = some place) :
    place ≤ line.size ∧ line.byteOffset place = bytes := by
  obtain ⟨count, inside, rfl, left⟩ := walk_eq_some found
  rw [Nat.zero_add]
  exact ⟨inside, left⟩

theorem byteOffset_add {line : Line} {place : Nat} {chars : List Char} (stands : chars <+: line.toList.drop place) :
    line.byteOffset (place + chars.length) = line.byteOffset place + byteCount chars := by
  rw [byteOffset, List.take_add, ← List.prefix_iff_eq_take.mp stands, byteCount_append, byteOffset]

/-- Whether so many bytes at the beginning of a line are whole characters of it. -/
def IsBoundary (line : Line) (offset : Nat) : Prop :=
  ∃ front back, line.toList = front ++ back ∧ byteCount front = offset

theorem IsBoundary.byteOffset (line : Line) (place : Nat) : line.IsBoundary (line.byteOffset place) :=
  ⟨_, _, (List.take_append_drop place line.toList).symm, rfl⟩

theorem isBoundary_iff {line : Line} {offset : Nat} :
    line.IsBoundary offset ↔ (line.place? offset).isSome := by
  constructor
  · rintro ⟨front, back, whole, rfl⟩
    have inside : front.length ≤ line.toList.length := by simp [whole]
    have walked := walk_byteCount line.toList front.length 0 inside
    rw [whole, List.take_left, ← whole] at walked
    exact Option.isSome_of_eq_some walked
  · intro known
    obtain ⟨place, found⟩ := Option.isSome_iff_exists.mp known
    rw [← (place?_eq_some found).2]
    exact .byteOffset line place

instance (line : Line) (offset : Nat) : Decidable (line.IsBoundary offset) :=
  decidable_of_iff _ isBoundary_iff.symm

example : (List.range 8).filter (ofString "aé€").IsBoundary = [0, 1, 3, 6] := by decide

end Foldmark.Line
