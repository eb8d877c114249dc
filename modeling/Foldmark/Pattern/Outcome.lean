/-! What a match of a pattern at a given place consists of: where it ends, and what its groups
cover. Places are counted in characters. -/
namespace Foldmark.Pattern

structure Span where
  start : Nat
  stop : Nat
deriving DecidableEq, Repr

/-- One way to match from a given place; a group that took no part covers nothing. -/
structure Outcome where
  stop : Nat
  groups : List (Option Span)
deriving DecidableEq, Repr

namespace Outcome

/-- Drops every outcome that ends where an earlier one ends; `seen` marks the ends met so far. -/
def distinctFrom (seen : Array Bool) : List Outcome → List Outcome
  | [] => []
  | o :: rest =>
    if seen[o.stop]?.getD false then distinctFrom seen rest
    else o :: distinctFrom (seen.setIfInBounds o.stop true) rest

/-- Keeps the first of all outcomes with one end. What follows a pattern sees the end only, so no
later outcome with this end can succeed where the first one failed. -/
def distinct (size : Nat) : List Outcome → List Outcome
  | [] => []
  | [o] => [o]
  | outcomes => distinctFrom (Array.replicate (size + 1) false) outcomes

/-- Adds what a further match covers; groups that took no part in it keep what they had. -/
def extend (first second : Outcome) : Outcome :=
  ⟨second.stop, List.zipWith (fun old new => new.or old) first.groups second.groups⟩

def append (first second : Outcome) : Outcome := ⟨second.stop, first.groups ++ second.groups⟩

/-- Places the groups of an outcome among groups that took no part. -/
def pad (before after : Nat) (o : Outcome) : Outcome :=
  ⟨o.stop, List.replicate before none ++ o.groups ++ List.replicate after none⟩

theorem mem_of_mem_distinctFrom {seen : Array Bool} {outcomes : List Outcome} {o : Outcome}
    (h : o ∈ distinctFrom seen outcomes) : o ∈ outcomes := by
  induction outcomes generalizing seen with
  | nil => simp [distinctFrom] at h
  | cons first rest ih =>
    simp only [distinctFrom] at h
    split at h
    · exact List.mem_cons_of_mem _ (ih h)
    · rcases List.mem_cons.1 h with rfl | h
      · exact List.mem_cons_self
      · exact List.mem_cons_of_mem _ (ih h)

theorem mem_of_mem_distinct {size : Nat} {outcomes : List Outcome} {o : Outcome}
    (h : o ∈ distinct size outcomes) : o ∈ outcomes := by
  unfold distinct at h
  split at h
  · exact h
  · exact h
  · exact mem_of_mem_distinctFrom h

theorem head?_distinct (size : Nat) (outcomes : List Outcome) :
    (distinct size outcomes).head? = outcomes.head? := by
  match outcomes with
  | [] => rfl
  | [_] => rfl
  | first :: second :: rest =>
    have : (Array.replicate (size + 1) false)[first.stop]?.getD false = false := by
      simp only [Array.getElem?_replicate]; split <;> rfl
    simp [distinct, distinctFrom, this]

end Outcome

end Foldmark.Pattern
