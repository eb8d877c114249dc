import Foldmark.Action

/-! Running actions. One that only reads until it writes, and writes last, leaves all files as they were where
it fails. -/
namespace Foldmark

/-- Whether one store comes from another by writing one of some files, or none. -/
def Store.Writes (files : List String) (s s' : Store) : Prop :=
  s' = s ∨ ∃ file ∈ files, ∃ text, s.write? file text = some s'

namespace Action

variable {α β : Type} {files : List String} {a : Action α} {f : α → Action β}

theorem runOn_bind (a : Action α) (f : α → Action β) (s : Store) :
    (a >>= f).runOn s =
      match a.runOn s with
      | (.ok x, left) => (f x).runOn left
      | (.error e, left) => (.error e, left) := by
  simp only [runOn, ExceptT.run_bind, StateT.run_bind]
  rcases a.run.run s with ⟨e | x, left⟩ <;> rfl

@[simp] theorem runOn_throw (e : Failure) (s : Store) : (throw e : Action α).runOn s = (.error e, s) := rfl

@[simp] theorem runOn_get (s : Store) : runOn get s = (.ok s, s) := rfl

@[simp] theorem runOn_ofExcept (x : Except Failure α) (s : Store) : runOn (ofExcept x) s = (x, s) := by
  cases x <;> rfl

theorem runOn_write (path text : String) (fault : Failure) (s : Store) :
    (write path text fault).runOn s =
      match s.write? path (some text) with
      | some left => (.ok (), left)
      | none => (.error fault, s) := by
  simp only [write, runOn_bind, runOn_get]
  cases s.write? path (some text) <;> rfl

theorem runOn_adapt (change : Failure → Failure) (a : Action α) (s : Store) :
    runOn (ExceptT.adapt change a) s = ((a.runOn s).1.mapError change, (a.runOn s).2) := rfl

def Reads (a : Action α) : Prop := ∀ s, (a.runOn s).2 = s

/-- Whether an action writes at most one of some files, and none where it fails. -/
def Atomic (files : List String) (a : Action α) : Prop :=
  ∀ s, match (a.runOn s).1 with
    | .ok _ => s.Writes files (a.runOn s).2
    | .error _ => (a.runOn s).2 = s

theorem reads_get : Reads get := fun _ => rfl

theorem reads_ofExcept (x : Except Failure α) : Reads (ofExcept x) := fun s => by rw [runOn_ofExcept]

theorem Reads.atomic (reads : Reads a) (files : List String) : Atomic files a := by
  intro s
  split
  · exact .inl (reads s)
  · exact reads s

theorem Reads.bind (reads : Reads a) (each : ∀ x, Reads (f x)) : Reads (a >>= f) := by
  intro s
  have before := reads s
  rw [runOn_bind]
  rcases found : a.runOn s with ⟨e | x, left⟩ <;> rw [found] at before
  · exact before
  · cases before
    exact each x _

theorem Reads.bind_atomic (reads : Reads a) (each : ∀ x, Atomic files (f x)) : Atomic files (a >>= f) := by
  intro s
  have before := reads s
  rw [runOn_bind]
  rcases found : a.runOn s with ⟨e | x, left⟩ <;> rw [found] at before
  · exact before
  · cases before
    exact each x _

theorem atomic_pure (x : α) : Atomic files (pure x) := fun _ => .inl rfl

theorem atomic_throw (e : Failure) : Atomic files (throw e : Action α) := fun _ => rfl

theorem atomic_write {path : String} (member : path ∈ files) (text : String) (fault : Failure) :
    Atomic files (write path text fault) := by
  intro s
  rw [runOn_write]
  cases written : s.write? path (some text) with
  | none => rfl
  | some left => exact .inr ⟨path, member, _, written⟩

theorem Atomic.map (atomic : Atomic files a) (g : α → β) : Atomic files (a >>= fun x => pure (g x)) := by
  intro s
  have before := atomic s
  rw [runOn_bind]
  rcases found : a.runOn s with ⟨e | x, left⟩ <;> rw [found] at before <;> exact before

theorem Atomic.adapt (atomic : Atomic files a) (change : Failure → Failure) :
    Atomic files (ExceptT.adapt change a : Action α) := by
  intro s
  have before := atomic s
  rw [runOn_adapt]
  rcases found : a.runOn s with ⟨e | x, left⟩ <;> rw [found] at before <;> exact before

theorem Atomic.writes (atomic : Atomic files a) (s : Store) : s.Writes files (a.runOn s).2 := by
  have left := atomic s
  split at left
  · exact left
  · exact .inl left

end Action

end Foldmark
