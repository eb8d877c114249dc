import Mathlib.Data.List.Infix
import Foldmark.Proofs.Fold.Continued
import Foldmark.Proofs.Rule.Expected

/-! Rules with a text that opens and a text at the end of the lines that go on. If the two have no character in
common, no match of one can cover the other, so the search sees both, and folding follows the chains of
lines that end with the second text. -/
namespace Foldmark

/-- A chain begins with a line in which a text stands, and goes on with lines that end with another one. -/
def Chains.ofTexts (opening suffix : String) : Chains where
  begins line := decide (opening.toList <:+: line.toList)
  continues line := suffix.toList.isSuffixOf line.toList

namespace Pattern

variable {p opening suffix : Pattern} {chars ending : List Char} {text : Line} {place : Nat}

/-- A pattern that matches where a text stands at the very end of a line. -/
def Ends (p : Pattern) (chars : List Char) : Prop :=
  ∀ (text : Line) (place : Nat), place ≤ text.size → p.node.matchAt text place =
    if text.toList.drop place = chars then some ⟨place, place + chars.length, []⟩ else none

theorem Node.StandsFor.matchAt_ends {node : Node} (stands : node.StandsFor chars) (inside : place ≤ text.size) :
    (Node.cat node (.look .textEnd)).matchAt text place =
      if text.toList.drop place = chars then some ⟨place, place + chars.length, []⟩ else none := by
  have length : (text.toList.drop place).length = text.size - place := by simp
  rw [Node.matchAt, Node.outcomes, stands, Outcome.head?_distinct]
  by_cases here : text.toList.drop place = chars
  · rw [here] at length
    have atEnd : place + chars.length = text.size := by omega
    simp [here, Node.outcomes, Look.holds, atEnd, Outcome.append]
  · by_cases begins : chars.isPrefixOf (text.toList.drop place) = true
    · obtain ⟨behind, rest⟩ := List.isPrefixOf_iff_prefix.mp begins
      have more : behind ≠ [] := fun nothing => here (by rw [← rest, nothing, List.append_nil])
      have longer := List.length_pos_of_ne_nil more
      rw [← rest, List.length_append] at length
      have notAtEnd : place + chars.length ≠ text.size := by omega
      simp [begins, here, Node.outcomes, Look.holds, notAtEnd]
    · simp [begins, here]

theorem Reads.lineEnd : Reads ['$'] [.anchor .lineEnd] :=
  fun _ _ now => run_cons now rfl (by simp)

theorem compile_ends {written : String} (h : compile s!"(?:{quoteText written})$" = .ok p) :
    p.Ends written.toList ∧ p.verboseFree = true := by
  obtain ⟨-, flags, read, means, -⟩ := compile_cases h
  have source : s!"(?:{quoteText written})$".toList =
      ExpectedEnd.enclose (quote written.toList) ++ ['$'] := by
    simp [ExpectedEnd.enclose, quoteText, toString]
  have reads := (Reads.quote written.toList).enclose.append Reads.lineEnd
  rw [source, reads.parse] at read
  obtain ⟨node, settled, stands⟩ := (SpelledBy.text written.toList).ofItems
  have group : nodeOf {} (.group (.plain []) (Ast.ofItems (written.toList.map plainChar))) = .ok (node, {}) := by
    rw [nodeOf, Flags.changeAll, List.foldl_nil, bind_of_ok settled]
    rfl
  have whole : nodeOf {} p.tree = .ok (.cat node (.look .textEnd), {}) := by
    rw [← Except.ok.inj read, nodeOf_ofItems, List.singleton_append, nodeOf.sequence, bind_of_ok group]
    · rfl
    · simp
  have same : p.node = .cat node (.look .textEnd) := congrArg Prod.fst (Except.ok.inj (means.symm.trans whole))
  refine ⟨fun text place inside => same ▸ stands.matchAt_ends inside, ?_⟩
  rw [verboseFree, ← Except.ok.inj read, verboseFree_ofItems]
  intro item member
  rcases List.mem_cons.mp member with rfl | last
  · exact (verboseFree_ofItems _).mpr (allFree_plainChars written.toList)
  · rw [List.mem_singleton.mp last]
    rfl

theorem Spells.matches?_iff (spells : p.Spells chars) (text : Line) :
    p.matches? text = true ↔ chars <:+: text.toList := by
  constructor
  · intro found
    obtain ⟨own, searched⟩ := Option.isSome_iff_exists.mp found
    obtain ⟨-, -, matched, -⟩ := Node.search_eq_some.mp searched
    rw [spells.matchAt] at matched
    split at matched
    · exact (List.isPrefixOf_iff_prefix.mp ‹_›).isInfix.trans (List.drop_suffix _ _).isInfix
    · cases matched
  · intro stands
    obtain ⟨rest, front, behind⟩ := List.infix_iff_prefix_suffix.mp stands
    have here : text.toList.drop (text.size - rest.length) = rest := by
      simpa using (List.suffix_iff_eq_drop.mp behind).symm
    exact matches?_of_matchAt (Nat.sub_le _ _)
      (by rw [spells.matchAt, here, if_pos (List.isPrefixOf_iff_prefix.mpr front)])

theorem Ends.matches?_eq (ends : p.Ends chars) (text : Line) :
    p.matches? text = chars.isSuffixOf text.toList := by
  rw [Bool.eq_iff_iff, List.isSuffixOf_iff_suffix]
  constructor
  · intro found
    obtain ⟨own, searched⟩ := Option.isSome_iff_exists.mp found
    obtain ⟨-, inside, matched, -⟩ := Node.search_eq_some.mp searched
    rw [ends text own.start inside] at matched
    split at matched
    · rename_i here
      exact here ▸ List.drop_suffix _ _
    · cases matched
  · intro stands
    have place : text.size - chars.length ≤ text.size := Nat.sub_le _ _
    have here : text.toList.drop (text.size - chars.length) = chars := by
      simpa using (List.suffix_iff_eq_drop.mp stands).symm
    exact matches?_of_matchAt place (by rw [ends text _ place, if_pos here])

/-- A text that reaches into the end of a line has a character in common with that end. -/
theorem exists_mem_of_overlap {letters : List Char} {start back : Nat} (front : chars <+: letters.drop start)
    (behind : letters.drop back = ending) (occupied : chars ≠ []) (overlap : back < start + chars.length) :
    ∃ c ∈ chars, c ∈ ending := by
  have length := List.length_pos_of_ne_nil occupied
  -- The character at the later of the two places belongs to both texts.
  obtain ⟨later, low, high, reached⟩ : ∃ later, start ≤ later ∧ later - start < chars.length ∧ back ≤ later :=
    ⟨max start back, by omega, by omega, by omega⟩
  have first : letters[later]? = some chars[later - start] := by
    obtain ⟨rest, whole⟩ := front
    have inFront : (chars ++ rest)[later - start]? = some chars[later - start] := by
      rw [List.getElem?_append_left high, List.getElem?_eq_getElem]
    rwa [whole, List.getElem?_drop, Nat.add_sub_cancel' low] at inFront
  have second : ending[later - back]? = some chars[later - start] := by
    rw [← behind, List.getElem?_drop, Nat.add_sub_cancel' reached, first]
  exact ⟨_, List.getElem_mem high, List.mem_of_getElem? second⟩

theorem ahead_of_apart (spells : opening.Spells chars) (ends : suffix.Ends ending) (occupied : chars ≠ [])
    (apart : ∀ c ∈ chars, c ∉ ending) (text : Line) : Ahead opening suffix text := by
  intro own other inside begins below goesOn
  rw [spells.matchAt] at begins
  rw [ends text other.start below] at goesOn
  split at begins
  · rename_i front
    split at goesOn
    · rename_i back
      have stop : own.stop = own.start + chars.length := by rw [← Option.some.inj begins]
      have length := List.length_pos_of_ne_nil occupied
      by_contra overlap
      rw [Fold.nextPlace, if_pos (by omega)] at overlap
      obtain ⟨c, mem, mem'⟩ :=
        exists_mem_of_overlap (List.isPrefixOf_iff_prefix.mp front) back occupied (by omega)
      exact apart c mem mem'
    · cases goesOn
  · cases begins

end Pattern

namespace Rule

variable {r : Rule} {c : CompiledRule} {opening suffix : String}

/-- A rule with a text that opens and a text at the end of the lines that go on. -/
structure Suffixed (r : Rule) (opening suffix : String) : Prop where
  first : r.opening = { text := some opening }
  further : r.continuation = { text := some suffix }
  unclosed : r.closing = {}

theorem Suffixed.shape? (suffixed : r.Suffixed opening suffix) : r.shape? = some .continuation := by
  simp [Rule.shape?, Marker.source?, suffixed.first, suffixed.further, suffixed.unclosed]

theorem Suffixed.compile_matchers (suffixed : r.Suffixed opening suffix) (h : r.compile = .ok c) :
    ∃ first further, c.matchers = .continuation first further ∧ first.Spells opening.toList ∧
      opening.toList ≠ [] ∧ further.Ends suffix.toList ∧ further.verboseFree = true := by
  obtain ⟨compiled, -⟩ := compile_cases h
  have first : r.opening.source? = some (Pattern.quoteText opening) := by
    simp [Marker.source?, suffixed.first]
  have further : r.continuation.source? = some (Pattern.quoteText suffix) := by
    simp [Marker.source?, suffixed.further]
  simp only [compileMatchers, suffixed.shape?, first, further] at compiled
  unfold compileContinuation at compiled
  obtain ⟨_, -, compiled⟩ := ok_of_bind compiled
  obtain ⟨p, isFirst, compiled⟩ := ok_of_bind compiled
  obtain ⟨q, isLast, compiled⟩ := ok_of_bind compiled
  obtain ⟨ends, free⟩ := Pattern.compile_ends (compileMarker_eq isLast)
  have occupied : opening.toList ≠ [] := by
    intro nothing
    have everywhere : p.matchesEmpty = true :=
      ((compileMarker_text isFirst).matches?_iff #[]).mpr (nothing ▸ List.nil_infix)
    cases everywhere.symm.trans (compileMarker_occupied isFirst)
  exact ⟨p, q, (Except.ok.inj compiled).symm, compileMarker_text isFirst, occupied, ends, free⟩

end Rule

namespace RuleSet

open Fold

/-- Folding with one rule whose opening text has no character in common with the text at the end of the lines
that go on follows the chains that these texts make, whatever else stands in the lines. -/
theorem fold_suffixed {r : Rule} {opening suffix : String} (suffixed : r.Suffixed opening suffix)
    (apart : ∀ c ∈ opening.toList, c ∉ suffix.toList) (accepted : (compile [r]).rejected = [])
    (document : Document) : (compile [r]).fold document =
      (Chains.ofTexts opening suffix).ranges r.foldLastLine r.kind document := by
  obtain ⟨c, m, compiled, rules, combined⟩ := compile_single accepted
  obtain ⟨first, further, matchers, spells, occupied, ends, free⟩ := suffixed.compile_matchers compiled
  obtain ⟨-, lastLine, kind⟩ := Rule.compile_switches compiled
  have allFree : ∀ a ∈ (compile [r]).candidates, a.pattern.verboseFree = true := by
    have markers : (compile [r]).candidates = [⟨0, .opening, first⟩, ⟨0, .continuation, further⟩] := by
      simp [candidates, rules, Candidate.ofRules, CompiledRule.alternatives, matchers]
    rw [markers, List.forall_mem_cons, List.forall_mem_singleton]
    exact ⟨spells.free, free⟩
  have continued := compile_continued rules combined matchers allFree
  have same : (⟨c.begins, c.continues⟩ : Chains) = .ofTexts opening suffix := by
    rw [Chains.ofTexts, Chains.mk.injEq]
    constructor
    · funext text
      rw [continued.begins_eq, Bool.eq_iff_iff, spells.matches?_iff, decide_eq_true_eq]
    · funext text
      rw [continued.continues_eq, ends.matches?_eq]
  have seen : ∀ text ∈ document, c.Seen text := fun text _ =>
    CompiledRule.seen_of_ahead matchers (Pattern.ahead_of_apart spells ends occupied apart text)
  rw [fold_eq_run combined, continued.run_eq document seen, same, lastLine, kind]

set_option maxRecDepth 100000 in
example (document : Document) :
    (compile [{ opening := { text := some "#define" }, continuation := { text := some "\\" } }]).fold document =
      (Chains.ofTexts "#define" "\\").ranges true .region document :=
  fold_suffixed ⟨rfl, rfl, rfl⟩ (by simp) (by decide +kernel) document

end RuleSet

end Foldmark
