import Foldmark.Proofs.Fold.Brackets
import Foldmark.Proofs.Rule.Sole

/-! Rules with one text that opens and closes. Folding with one such rule takes the places where the text stands two
by two, whether the rule nests or not: what a marker does is told by the parity of those before it, so the state
of the scan is read off the lines on which the text has stood so far. -/
namespace Foldmark

namespace Delimiter

open Brackets (span)

/-- The places at which a text stands among some characters, leftmost first and none of them inside another one. The
characters begin at `place`, and the first `skip` of them belong to a text that has been read. -/
def places (own : List Char) : Nat → Nat → List Char → List Nat
  | _, _, [] => []
  | place, skip + 1, _ :: rest => places own (place + 1) skip rest
  | place, 0, c :: rest =>
    if own.isPrefixOf (c :: rest) then place :: places own (place + 1) (own.length - 1) rest
    else places own (place + 1) 0 rest

/-- The lines on which a text stands in reading order, each as often as the text stands there; the first line has the
number `line`. -/
def lines (own : List Char) : Nat → Document → List Nat
  | _, [] => []
  | line, text :: rest =>
    (places own 0 0 text.toList).map (fun _ => line) ++ lines own (line + 1) rest

/-- The ranges from the first line to the second, from the third to the fourth, and so on. -/
def paired (lastLine : Bool) (kind : Kind) : List Nat → List Range
  | first :: second :: rest =>
    span kind first (if lastLine then second else second - 1) ++ paired lastLine kind rest
  | _ => []

def odd? : List Nat → Option Nat
  | _ :: _ :: rest => odd? rest
  | [line] => some line
  | [] => none

/-- The ranges between the places where a text stands in a document. -/
def ranges (own : List Char) (lastLine : Bool) (kind : Kind) (document : Document) : List Range :=
  paired lastLine kind (lines own 0 document)

section Pairing

variable {lastLine : Bool} {kind : Kind}

theorem odd?_concat (seen : List Nat) (line : Nat) :
    odd? (seen ++ [line]) =
      match odd? seen with
      | some _ => none
      | none => some line := by
  induction seen using odd?.induct with
  | case1 first second rest ih => exact ih
  | case2 first => rfl
  | case3 => rfl

theorem paired_concat (seen : List Nat) (line : Nat) :
    paired lastLine kind (seen ++ [line]) = paired lastLine kind seen ++
      match odd? seen with
      | some start => span kind start (if lastLine then line else line - 1)
      | none => [] := by
  induction seen using odd?.induct with
  | case1 first second rest ih => simp [odd?, paired, ih]
  | case2 first => simp [odd?, paired]
  | case3 => rfl

end Pairing

section Reading

variable {own chars : List Char} {place : Nat}

theorem places_drop (skip : Nat) (place : Nat) (chars : List Char) :
    places own place skip chars = places own (place + skip) 0 (chars.drop skip) := by
  induction skip generalizing place chars with
  | zero => rfl
  | succ skip ih =>
    cases chars with
    | nil => rfl
    | cons c rest =>
      rw [places, ih, List.drop_succ_cons, Nat.add_assoc, Nat.add_comm 1]

theorem places_until (count : Nat)
    (nowhere : ∀ further < count, own.isPrefixOf (chars.drop further) = false) :
    places own place 0 chars = places own (place + count) 0 (chars.drop count) := by
  induction count generalizing place chars with
  | zero => rfl
  | succ count ih =>
    cases chars with
    | nil => rfl
    | cons c rest =>
      have here : own.isPrefixOf (c :: rest) = false := nowhere 0 (Nat.succ_pos _)
      rw [places, here, if_neg Bool.false_ne_true, List.drop_succ_cons, Nat.add_comm count,
        ← Nat.add_assoc]
      exact ih fun further below => nowhere (further + 1) (Nat.succ_lt_succ below)

theorem places_front (stands : own.isPrefixOf chars = true) (occupied : own ≠ []) :
    places own place 0 chars = place :: places own (place + own.length) 0 (chars.drop own.length) := by
  obtain ⟨first, more, rfl⟩ := List.exists_cons_of_ne_nil occupied
  cases chars with
  | nil => simp at stands
  | cons c rest =>
    rw [places, if_pos stands, places_drop]
    simp [Nat.add_assoc, Nat.add_comm 1]

theorem places_find {p : Pattern} (spells : p.Spells own) (occupied : own ≠ []) (text : Line)
    (place : Nat) :
    (∀ found ∈ p.find? text place, place ≤ found.start ∧ found.start < found.stop) ∧
    places own place 0 (text.toList.drop place) =
      match p.find? text place with
      | none => []
      | some found => found.start :: places own found.stop 0 (text.toList.drop found.stop) := by
  have absent (further : Nat) (unmatched : p.node.matchAt text further = none) :
      own.isPrefixOf (text.toList.drop further) = false := by
    rw [spells.matchAt] at unmatched
    split at unmatched
    · cases unmatched
    · rename_i elsewhere
      exact Bool.eq_false_iff.mpr elsewhere
  cases searched : p.find? text place with
  | none =>
    have nowhere := Pattern.Node.search_eq_none.mp searched
    refine ⟨by simp, ?_⟩
    rw [places_until (text.size - place), List.drop_drop, List.drop_eq_nil_of_le]
    · rfl
    · simp
      omega
    · intro further below
      rw [List.drop_drop]
      exact absent _ (nowhere _ (by omega) (by omega))
  | some found =>
    obtain ⟨above, below, matched, earlier⟩ := Pattern.Node.search_eq_some.mp searched
    rw [spells.matchAt] at matched
    split at matched
    · rename_i here
      have stop : found.start + own.length = found.stop := congrArg Pattern.Found.stop (Option.some.inj matched)
      have length := List.length_pos_iff.mpr occupied
      refine ⟨by simp; omega, ?_⟩
      rw [places_until (found.start - place), List.drop_drop, Nat.add_sub_cancel' above,
        places_front here occupied, List.drop_drop, stop]
      intro further short
      rw [List.drop_drop]
      exact absent _ (earlier _ (by omega) (by omega))
    · cases matched

end Reading

end Delimiter

namespace Fold

open Delimiter

variable {g : Grammar} {own : List Char} {p : Pattern} {c : CompiledRule} {line : Nat} {text : Line}
  {seen : List Nat}

/-- A grammar with one rule, whose only marker means a text. -/
structure Delimited (g : Grammar) (own : List Char) (p : Pattern) (c : CompiledRule) : Prop where
  known : g.rules[0]? = some c
  matchers : c.matchers = .docstring p
  spells : p.Spells own
  occupied : own ≠ []
  /-- The text is what is found. -/
  finds : ∀ text place, g.master.findAt text place = (p.find? text place).map fun found =>
    ⟨.docstring, 0, found.start, found.stop, some ⟨found.start, found.stop⟩ :: found.groups⟩

namespace Delimited

/-- The state of a scan, by the lines on which the text has stood so far. -/
def state (c : CompiledRule) (seen : List Nat) : State :=
  ⟨(odd? seen).toList.map fun start => { rule := 0, start },
    (paired c.foldLastLine c.kind seen).reverse, .normal⟩

theorem onMarker (delimited : Delimited g own p c) {found : MarkerMatch} (role : found.role = .docstring)
    (rule : found.rule = 0) :
    (state c seen).onMarker g line text found = (state c (seen ++ [line]), none) := by
  unfold State.onMarker state
  rw [odd?_concat, paired_concat, role]
  cases odd? seen with
  | none => simp [State.owner?, State.mayOpen, State.push, rule]
  | some start =>
    simp [State.owner?, rule, State.endSections, State.closeTop, State.emit,
      closed_eq_span (b := { rule := 0, start }) delimited.known]

theorem step (delimited : Delimited g own p c) (place : Nat) :
    Fold.step g line text (state c seen) place =
      (p.find? text place).map fun found => (state c (seen ++ [line]), found.stop) := by
  have mode : (state c seen).mode = .normal := rfl
  have forward := (places_find delimited.spells delimited.occupied text place).1
  unfold Fold.step
  rw [mode, delimited.finds]
  cases searched : p.find? text place with
  | none => rfl
  | some found =>
    have next : nextPlace found.start found.stop = found.stop := if_pos (forward found searched).2
    simp [delimited.onMarker, MarkerMatch.start, MarkerMatch.stop, next]

theorem steps (delimited : Delimited g own p c) (line : Nat) (text : Line) (count place : Nat)
    (seen : List Nat) (enough : text.size < place + count) :
    Fold.steps g line text count (state c seen) place =
      state c (seen ++ (places own place 0 (text.toList.drop place)).map fun _ => line) := by
  induction count generalizing seen place with
  | zero =>
    have outside : text.toList.length ≤ place := Nat.le_of_lt enough
    simp [List.drop_eq_nil_of_le outside, Fold.steps, places]
  | succ count ih =>
    obtain ⟨forward, read⟩ := places_find delimited.spells delimited.occupied text place
    unfold Fold.steps
    split
    · rw [delimited.step, read]
      cases searched : p.find? text place with
      | none => simp
      | some found =>
        have advances := forward found searched
        simp only [Option.map_some]
        rw [ih found.stop _ (by omega)]
        simp
    · rename_i outside
      have outside : text.toList.length ≤ place := Nat.le_of_not_le outside
      simp [List.drop_eq_nil_of_le outside, places]

theorem endLine (delimited : Delimited g own p c) : (state c seen).endLine g line = state c seen := by
  have plain : g.isContinuation 0 = false := by
    simp [Grammar.isContinuation, delimited.known, CompiledRule.isContinuation, CompiledRule.shape,
      delimited.matchers]
  unfold State.endLine state
  cases odd? seen <;> simp [plain]

theorem readLines (delimited : Delimited g own p c) (line : Nat) (document : Document) (seen : List Nat) :
    Fold.readLines g line document (state c seen) = state c (seen ++ lines own line document) := by
  induction document generalizing line seen with
  | nil => simp [Fold.readLines, lines]
  | cons text rest ih =>
    have read := delimited.steps line text (text.size + 1) 0 seen (by omega)
    rw [List.drop_zero] at read
    rw [Fold.readLines, Fold.readLine, read, delimited.endLine, ih, lines, List.append_assoc]

theorem run_eq (delimited : Delimited g own p c) (document : Document) :
    run g document = Delimiter.ranges own c.foldLastLine c.kind document := by
  have begun : state c [] = .start := rfl
  have noSections : (state c (lines own 0 document)).stack.filter (·.isSection) = [] := by
    unfold state
    cases odd? (lines own 0 document) <;> rfl
  rw [run, ← begun, delimited.readLines, List.nil_append, State.finish, noSections]
  simp [State.emit, state, Delimiter.ranges]

end Delimited

end Fold

namespace Rule

/-- A rule with one text that opens and closes, and is not empty. -/
structure Delimited (r : Rule) (text : String) : Prop where
  first : r.opening = { text := some text }
  last : r.closing = { text := some text }
  occupied : text ≠ ""

theorem Delimited.compile_matchers {r : Rule} {c : CompiledRule} {text : String}
    (delimited : r.Delimited text) (compiled : r.compile = .ok c) :
    ∃ p, c.matchers = .docstring p ∧ p.Spells text.toList := by
  have matchers := (compile_cases compiled).1
  have first : r.opening.source? = some (Pattern.quoteText text) := by
    simp [Marker.source?, delimited.first]
  have last : r.closing.source? = some (Pattern.quoteText text) := by
    simp [Marker.source?, delimited.last]
  have shape : r.shape? = some .docstring := by simp [shape?, first, last]
  simp only [compileMatchers, shape, first] at matchers
  obtain ⟨p, marker, same⟩ := ok_of_bind matchers
  exact ⟨p, (Except.ok.inj same).symm, compileMarker_text marker⟩

end Rule

namespace RuleSet

variable {r : Rule} {text : String}

theorem compile_delimited (delimited : r.Delimited text) (accepted : (compile [r]).rejected = []) :
    ∃ c m p, (compile [r]).master = some m ∧ c.foldLastLine = r.foldLastLine ∧ c.kind = r.kind ∧
      Fold.Delimited ((compile [r]).grammar m) text.toList p c := by
  obtain ⟨c, m, compiled, rules, combined⟩ := compile_single accepted
  obtain ⟨p, matchers, spells⟩ := delimited.compile_matchers compiled
  obtain ⟨-, lastLine, kind⟩ := Rule.compile_switches compiled
  refine ⟨c, m, p, combined, lastLine, kind, ?_, matchers, spells, ?_, ?_⟩
  · rw [grammar, rules]
    rfl
  · exact fun empty => delimited.occupied (String.toList_eq_nil_iff.mp empty)
  · exact compile_sole rules combined (by rw [CompiledRule.alternatives, matchers])

/-- Folding with one rule in which a text opens and closes pairs the places where the text stands, in reading order
over all lines: the first with the second, the third with the fourth. A pair on different lines is a range, without
its last line if the rule says so and more than one line is left, and a place without a partner is none. -/
theorem fold_delimited (delimited : r.Delimited text) (accepted : (compile [r]).rejected = [])
    (document : Document) :
    (compile [r]).fold document =
      Delimiter.ranges text.toList r.foldLastLine r.kind document := by
  obtain ⟨c, m, p, combined, lastLine, kind, alone⟩ := compile_delimited delimited accepted
  rw [fold_eq_run combined, alone.run_eq, lastLine, kind]

/-- Percent signs around comments whose last line is not part of the range. -/
def percentRule : Rule :=
  { Rule.ofTexts "%%" "%%" with nested := false, foldLastLine := false, kind := .comment }

set_option maxRecDepth 100000 in
/-- Three signs are one place and a rest, four are two places, and the last of five places is left over. -/
theorem fold_delimited_by_percents :
    percentRule.Delimited "%%" ∧ (compile [percentRule]).rejected = [] ∧
      (compile [percentRule]).fold (.ofLines ["a %%%", "b", "%%%%", "c", "d", "%%", "%%"]) =
        [⟨0, 1, .comment⟩, ⟨2, 4, .comment⟩] := by
  have delimited : percentRule.Delimited "%%" := ⟨rfl, rfl, by decide⟩
  have accepted : (compile [percentRule]).rejected = [] := by decide +kernel
  refine ⟨delimited, accepted, ?_⟩
  rw [fold_delimited delimited accepted]
  decide

end RuleSet

end Foldmark
