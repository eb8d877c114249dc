import Foldmark.Proofs.Rule.Compiled

/-! Markers that are ignored. A shape reads some of the markers, and what a rule is compiled to depends on these only.
The other markers are ignored: without them the rule has the same shape and is compiled to the same. Only the closing
marker of a separator, which is not read either, is never said to be ignored. -/
namespace Foldmark

/-- The markers that are read when a rule of a shape is compiled. -/
def Shape.reads : Shape → List Role
  | .docstring => [.opening, .closing]
  | .paired => [.opening, .middle, .closing]
  | .continuation => [.opening, .continuation]
  | .separator => [.separator]

namespace Rule

/-- The marker with a role. A docstring has no marker of its own: it is what opens and closes in one. -/
def marker (r : Rule) : Role → Marker
  | .opening => r.opening
  | .middle => r.middle
  | .closing => r.closing
  | .continuation => r.continuation
  | .separator => r.separator
  | .docstring => {}

def Declares (r : Rule) (role : Role) : Prop := (r.marker role).source?.isSome = true

instance (r : Rule) (role : Role) : Decidable (r.Declares role) := inferInstanceAs (Decidable (_ = true))

def clear (r : Rule) : Role → Rule
  | .opening => { r with opening := {} }
  | .middle => { r with middle := {} }
  | .closing => { r with closing := {} }
  | .continuation => { r with continuation := {} }
  | .separator => { r with separator := {} }
  | .docstring => r

def clearAll (r : Rule) (roles : List Role) : Rule := roles.foldl clear r

variable {r other : Rule} {shape : Shape} {role : Role}

theorem marker_clear (r : Rule) (gone role : Role) :
    (r.clear gone).marker role = if role = gone then {} else r.marker role := by
  cases gone <;> cases role <;> rfl

theorem marker_clearAll (r : Rule) (roles : List Role) (role : Role) :
    (r.clearAll roles).marker role = if role ∈ roles then {} else r.marker role := by
  induction roles generalizing r with
  | nil => rfl
  | cons gone rest ih =>
    have next : r.clearAll (gone :: rest) = (r.clear gone).clearAll rest := rfl
    rw [next, ih, marker_clear]
    by_cases own : role = gone <;> by_cases later : role ∈ rest <;> simp [own, later]

theorem switches_clearAll (r : Rule) (roles : List Role) : (r.clearAll roles).nested = r.nested ∧
    (r.clearAll roles).foldLastLine = r.foldLastLine ∧ (r.clearAll roles).kind = r.kind := by
  induction roles generalizing r with
  | nil => exact ⟨rfl, rfl, rfl⟩
  | cons gone rest ih =>
    have own : (r.clear gone).nested = r.nested ∧ (r.clear gone).foldLastLine = r.foldLastLine ∧
        (r.clear gone).kind = r.kind := by
      cases gone <;> exact ⟨rfl, rfl, rfl⟩
    obtain ⟨nested, lastLine, kind⟩ := ih (r.clear gone)
    exact ⟨nested.trans own.1, lastLine.trans own.2.1, kind.trans own.2.2⟩

theorem shape?_cases (shaped : r.shape? = some shape) :
    (shape = .docstring ∧ ∃ source, r.opening.source? = some source ∧ r.closing.source? = some source) ∨
    (shape = .paired ∧ ∃ first last, first ≠ last ∧ r.opening.source? = some first ∧
      r.closing.source? = some last) ∨
    (shape = .continuation ∧ ∃ first suffix, r.opening.source? = some first ∧ r.closing.source? = none ∧
      r.continuation.source? = some suffix) ∨
    (shape = .separator ∧ ∃ source, r.separator.source? = some source ∧
      (r.opening.source? = none ∨ r.closing.source? = none ∧ r.continuation.source? = none)) := by
  unfold shape? at shaped
  split at shaped
  · rename_i first last opening closing
    by_cases same : first = last
    · rw [if_pos same] at shaped
      cases shaped
      exact .inl ⟨rfl, first, opening, same ▸ closing⟩
    · rw [if_neg same] at shaped
      cases shaped
      exact .inr (.inl ⟨rfl, first, last, same, opening, closing⟩)
  · rename_i first opening closing
    cases continuation : r.continuation.source? with
    | some suffix =>
      simp only [continuation, Option.isSome_some, if_true] at shaped
      cases shaped
      exact .inr (.inr (.inl ⟨rfl, first, suffix, opening, closing, rfl⟩))
    | none =>
      cases separator : r.separator.source? with
      | some source =>
        simp only [continuation, separator, Option.isSome_none, Option.isSome_some, if_true] at shaped
        cases shaped
        exact .inr (.inr (.inr ⟨rfl, source, rfl, .inr ⟨closing, rfl⟩⟩))
      | none => simp [continuation, separator] at shaped
  · rename_i opening
    cases separator : r.separator.source? with
    | some source =>
      simp only [separator, Option.isSome_some, if_true] at shaped
      cases shaped
      exact .inr (.inr (.inr ⟨rfl, source, rfl, .inl opening⟩))
    | none => simp [separator] at shaped

/-- What a rule is compiled to depends on its shape, the markers that this reads, and its switches. -/
theorem compile_congr (shaped : r.shape? = some shape) (shaped' : other.shape? = some shape)
    (same : ∀ role ∈ shape.reads, (r.marker role).source? = (other.marker role).source?)
    (nested : r.nested = other.nested) (lastLine : r.foldLastLine = other.foldLastLine)
    (kind : r.kind = other.kind) : r.compile = other.compile := by
  have matchers : r.compileMatchers = other.compileMatchers := by
    rcases shape?_cases shaped with ⟨rfl, source, opening, -⟩ | ⟨rfl, first, last, -, opening, closing⟩ |
      ⟨rfl, first, suffix, opening, -, continuation⟩ | ⟨rfl, source, separator, -⟩
    · have opening' : other.opening.source? = some source := (same .opening (by decide)).symm.trans opening
      simp only [compileMatchers, shaped, shaped', opening, opening']
    · have opening' : other.opening.source? = some first := (same .opening (by decide)).symm.trans opening
      have middle : r.middle.source? = other.middle.source? := same .middle (by decide)
      have closing' : other.closing.source? = some last := (same .closing (by decide)).symm.trans closing
      simp only [compileMatchers, compilePaired, shaped, shaped', opening, opening', middle, closing, closing', nested]
    · have opening' : other.opening.source? = some first := (same .opening (by decide)).symm.trans opening
      have continuation' : other.continuation.source? = some suffix :=
        (same .continuation (by decide)).symm.trans continuation
      simp only [compileMatchers, shaped, shaped', opening, opening', continuation, continuation']
    · have separator' : other.separator.source? = some source := (same .separator (by decide)).symm.trans separator
      simp only [compileMatchers, shaped, shaped', separator, separator']
  simp only [compile, matchers, nested, lastLine, kind]

theorem mem_ignored_iff (shaped : r.shape? = some shape) :
    role ∈ r.ignored ↔ r.Declares role ∧ role ∉ shape.reads ∧ role ≠ .closing := by
  cases shape <;> cases role <;> simp [ignored, shaped, Declares, marker, Shape.reads, Marker.source?]

theorem source?_clearAll_ignored (shaped : r.shape? = some shape) (role : Role) :
    ((r.clearAll r.ignored).marker role).source? =
      if role ∈ shape.reads ∨ role = .closing then (r.marker role).source? else none := by
  rw [marker_clearAll]
  by_cases kept : role ∈ shape.reads ∨ role = .closing
  · have known : role ∉ r.ignored := by
      rw [mem_ignored_iff shaped]
      rintro ⟨-, unread, other⟩
      exact kept.elim unread other
    rw [if_neg known, if_pos kept]
  · rw [if_neg kept]
    by_cases known : role ∈ r.ignored
    · rw [if_pos known]
      rfl
    · have absent : ¬r.Declares role := fun declared =>
        known ((mem_ignored_iff shaped).mpr ⟨declared, fun read => kept (.inl read), fun same => kept (.inr same)⟩)
      rw [if_neg known]
      exact Option.not_isSome_iff_eq_none.mp absent

theorem shape?_clearAll_ignored (shaped : r.shape? = some shape) : (r.clearAll r.ignored).shape? = some shape := by
  have kept := source?_clearAll_ignored shaped
  generalize r.clearAll r.ignored = left at kept ⊢
  rcases shape?_cases shaped with ⟨rfl, source, own⟩ | ⟨rfl, first, last, differ, own⟩ |
    ⟨rfl, first, suffix, own⟩ | ⟨rfl, source, own⟩
  · have opening : left.opening.source? = some source := by simpa [marker, Shape.reads, own] using kept .opening
    have closing : left.closing.source? = some source := by simpa [marker, Shape.reads, own] using kept .closing
    simp [shape?, opening, closing]
  · have opening : left.opening.source? = some first := by simpa [marker, Shape.reads, own] using kept .opening
    have closing : left.closing.source? = some last := by simpa [marker, Shape.reads, own] using kept .closing
    simp [shape?, opening, closing, differ]
  · have opening : left.opening.source? = some first := by simpa [marker, Shape.reads, own] using kept .opening
    have closing : left.closing.source? = none := by simpa [marker, Shape.reads, own] using kept .closing
    have continuation : left.continuation.source? = some suffix := by
      simpa [marker, Shape.reads, own] using kept .continuation
    simp [shape?, opening, closing, continuation]
  · have opening : left.opening.source? = none := by simpa [marker, Shape.reads] using kept .opening
    have separator : left.separator.source? = some source := by simpa [marker, Shape.reads, own] using kept .separator
    simp [shape?, opening, separator]

/-- Taking away what is ignored changes neither the shape of a rule nor what it is compiled to. The markers that are
left are those that the shape reads and, in a separator, a closing marker. -/
theorem clearAll_ignored (shaped : r.shape? = some shape) :
    (r.clearAll r.ignored).shape? = some shape ∧ (r.clearAll r.ignored).compile = r.compile ∧
      ∀ role, (r.clearAll r.ignored).Declares role ↔
        r.Declares role ∧ (role ∈ shape.reads ∨ shape = .separator ∧ role = .closing) := by
  have kept := source?_clearAll_ignored shaped
  have shaped' := shape?_clearAll_ignored shaped
  refine ⟨shaped', ?_, fun role => ?_⟩
  · obtain ⟨nested, lastLine, kind⟩ := switches_clearAll r r.ignored
    refine compile_congr shaped' shaped (fun role read => ?_) nested lastLine kind
    rw [kept, if_pos (.inl read)]
  · rw [Declares, kept]
    by_cases read : role ∈ shape.reads
    · simp [read, Declares]
    · by_cases closing : role = .closing
      · subst closing
        rcases shape?_cases shaped with ⟨rfl, -⟩ | ⟨rfl, -⟩ | ⟨rfl, first, suffix, own⟩ | ⟨rfl, -⟩
        · exact absurd (by decide) read
        · exact absurd (by decide) read
        · simp [Declares, marker, own]
        · simp [Declares]
      · simp [read, closing]

/-- A separator with three markers that it does not read. -/
def crowdedRule : Rule :=
  { middle := { text := some "--" }, closing := { text := some "end" }, continuation := { text := some "\\" },
    separator := { regex := some "^---$" } }

/-- Two of them are ignored; the closing one is left. -/
theorem clearAll_ignored_of_separator :
    crowdedRule.shape? = some .separator ∧ crowdedRule.ignored = [.middle, .continuation] ∧
      (crowdedRule.clearAll crowdedRule.ignored).compile = crowdedRule.compile ∧
      (crowdedRule.clearAll crowdedRule.ignored).Declares .closing ∧
      ¬(crowdedRule.clearAll crowdedRule.ignored).Declares .middle := by
  have shaped : crowdedRule.shape? = some .separator := by decide +kernel
  obtain ⟨-, compiled, left⟩ := clearAll_ignored shaped
  have closing : crowdedRule.Declares .closing := by decide
  refine ⟨shaped, by decide +kernel, compiled, (left .closing).mpr ⟨closing, .inr ⟨rfl, rfl⟩⟩, fun declared => ?_⟩
  exact absurd ((left .middle).mp declared).2 (by decide)

/-- A separator with a closing marker. -/
def endedRule : Rule := { closing := { text := some "x" }, separator := { text := some "---" } }

/-- Nothing of it is said to be ignored, but only the separator is read. -/
theorem closing_overlooked :
    endedRule.shape? = some .separator ∧ endedRule.ignored = [] ∧
      (endedRule.clearAll endedRule.ignored).Declares .closing ∧ .closing ∉ Shape.separator.reads := by
  decide +kernel

end Rule

end Foldmark
