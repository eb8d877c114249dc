import Foldmark.Proofs.Pattern.Literal
import Foldmark.Proofs.Rule.Compiled

/-! Rules with texts as markers. What such a rule is compiled to means the texts; a text refers to no group of
another marker. -/
namespace Foldmark

namespace Mirror

theorem any_push (c : Char) (parts : List MirrorPart) :
    (push c parts).any isGroup = parts.any isGroup := by
  unfold push
  split
  · simp [isGroup]
  · simp [isGroup]

theorem divide_nil : divide [] = [] := by rw [divide]

theorem divide_escaped {c : Char} (plain : isReferenceStart c = false) (rest : List Char) :
    divide ('\\' :: c :: rest) = push '\\' (push c (divide rest)) := by
  rw [divide.eq_def]
  simp [plain]

theorem divide_cons {c : Char} (plain : c ≠ '\\') (rest : List Char) :
    divide (c :: rest) = push c (divide rest) := by
  rw [divide.eq_def]
  simp [plain]

theorem divide_quote_append (text rest : List Char) :
    divide (Pattern.quote text ++ rest) = (Pattern.quote text).foldr push (divide rest) := by
  induction text with
  | nil => rfl
  | cons c text ih =>
    rw [Pattern.quote]
    split
    · rename_i own
      have plain : isReferenceStart c = false := by
        simp only [Pattern.isMeta, List.mem_cons, List.not_mem_nil, or_false,
          decide_eq_true_eq] at own
        rcases own with rfl | rfl | rfl | rfl | rfl | rfl | rfl | rfl | rfl | rfl | rfl | rfl | rfl |
          rfl | rfl | rfl | rfl | rfl
        all_goals decide
      rw [List.cons_append, List.cons_append, divide_escaped plain, ih, List.foldr_cons, List.foldr_cons]
    · rename_i other
      have plain : c ≠ '\\' := by
        rintro rfl
        exact other rfl
      rw [List.cons_append, divide_cons plain, ih, List.foldr_cons]

theorem divide_quote (text : List Char) : (divide (Pattern.quote text)).any isGroup = false := by
  rw [← List.append_nil (Pattern.quote text), divide_quote_append, divide_nil]
  induction Pattern.quote text with
  | nil => rfl
  | cons c rest ih => rw [List.foldr_cons, any_push, ih]

theorem ofSource?_quoteText (text : String) : ofSource? (Pattern.quoteText text) = none := by
  rw [ofSource?, Pattern.quoteText, String.toList_ofList]
  simp [divide_quote]

end Mirror

namespace Rule

variable {r : Rule} {c : CompiledRule} {opening closing : String} {middle : Option String}

/-- A rule that folds between two texts, of which neither is empty, and divides at a third one, if there is
one. -/
structure Literal (r : Rule) (opening : String) (middle : Option String) (closing : String) : Prop where
  first : r.opening = { text := some opening }
  between : r.middle = { text := middle }
  last : r.closing = { text := some closing }
  distinct : opening ≠ closing
  occupied : opening ≠ "" ∧ middle ≠ some "" ∧ closing ≠ ""

theorem compileMarker_text {role : Role} {text : String} {p : Pattern}
    (h : compileMarker role (Pattern.quoteText text) = .ok p) : p.Spells text.toList :=
  Pattern.compile_quote (compileMarker_eq h)

theorem compileClosing_text {first p : Pattern} {text : String} {mirror : Option Mirror}
    (h : compileClosing first (Pattern.quoteText text) = .ok (p, mirror)) :
    p.Spells text.toList ∧ mirror = none := by
  unfold compileClosing at h
  rw [Mirror.ofSource?_quoteText] at h
  obtain ⟨closing, compiled, same⟩ := ok_of_bind h
  cases same
  exact ⟨compileMarker_text compiled, rfl⟩

theorem compileMiddle_text {text : Option String} {p : Option Pattern} (occupied : text ≠ some "")
    (h : compileMiddle (text.map Pattern.quoteText) = .ok p) :
    Option.Rel (fun p text => p.Spells text.toList) p text := by
  cases text with
  | none =>
    cases h
    exact .none
  | some text =>
    have someText : text.toList ≠ [] := fun empty => occupied (by simpa using empty)
    simp only [compileMiddle, Option.map_some] at h
    split at h
    · rename_i compiled
      cases h
      exact .some (compileMarker_text compiled)
    · rename_i refused
      unfold compileMarker at refused
      split at refused
      · cases refused
      · rename_i compiled
        have matches' := (Pattern.compile_quote compiled).matchesEmpty someText
        simp [matches', pure, Except.pure] at refused
    · cases h

theorem Literal.compile_matchers (literal : r.Literal opening middle closing) (h : r.compile = .ok c) :
    ∃ first between last unnested, c.matchers = .paired first between last unnested none ∧
      first.Spells opening.toList ∧ last.Spells closing.toList ∧
      Option.Rel (fun p text => p.Spells text.toList) between middle := by
  obtain ⟨compiled, -⟩ := compile_cases h
  have differ : Pattern.quoteText opening ≠ Pattern.quoteText closing := by
    intro same
    have texts := Pattern.quote_injective (String.ofList_injective same)
    exact literal.distinct (String.toList_injective texts)
  have shape : r.shape? = some .paired := by
    simp [shape?, Marker.source?, literal.first, literal.last, differ]
  have first : r.opening.source? = some (Pattern.quoteText opening) := by
    simp [Marker.source?, literal.first]
  have last : r.closing.source? = some (Pattern.quoteText closing) := by
    simp [Marker.source?, literal.last]
  have between : r.middle.source? = middle.map Pattern.quoteText := by
    simp [Marker.source?, literal.between]
  simp only [compileMatchers, shape, first, last] at compiled
  unfold compilePaired at compiled
  obtain ⟨p, isFirst, compiled⟩ := ok_of_bind compiled
  obtain ⟨⟨q, mirror⟩, isLast, compiled⟩ := ok_of_bind compiled
  obtain ⟨m, isMiddle, compiled⟩ := ok_of_bind compiled
  rw [between] at isMiddle
  obtain ⟨lastSpells, rfl⟩ := compileClosing_text isLast
  have parts := compileMiddle_text literal.occupied.2.1 isMiddle
  split at compiled
  · exact ⟨p, m, q, none, (Except.ok.inj compiled).symm, compileMarker_text isFirst, lastSpells, parts⟩
  · split at compiled
    · exact ⟨p, m, q, _, (Except.ok.inj compiled).symm, compileMarker_text isFirst, lastSpells, parts⟩
    · cases compiled

theorem compile_switches (h : r.compile = .ok c) :
    c.nested = r.nested ∧ c.foldLastLine = r.foldLastLine ∧ c.kind = r.kind := by
  unfold compile at h
  obtain ⟨m, -, h⟩ := ok_of_bind h
  cases h
  exact ⟨rfl, rfl, rfl⟩

end Rule

end Foldmark
