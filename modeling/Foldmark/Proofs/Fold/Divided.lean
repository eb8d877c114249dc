import Foldmark.Proofs.Fold.State
import Foldmark.Proofs.Rule.Literal
import Foldmark.Proofs.Rule.Sole

/-! Rules that divide a document. Folding with one such rule cuts the document in front of every line that the
separator matches in, and the sections between the cuts tile it: the one in front of the first cut, those
between two, and the one behind the last come from different moves of the scan, and each is a range just
when it holds more than one line. -/
namespace Foldmark

namespace Division

/-- The lines in which a separator matches, in ascending order; the first line has the number `line`. -/
def cuts (p : Pattern) (line : Nat) (document : Document) : List Nat :=
  ((document.zipIdx line).filter fun entry => p.matches? entry.1).map (·.2)

/-- The sections that cuts make of the lines from `start` on, each with the line behind its last one. -/
def sections (start : Nat) : List Nat → Nat → List (Nat × Nat)
  | [], lines => [(start, lines)]
  | cut :: later, lines => (start, cut) :: sections cut later lines

def range (kind : Kind) : Nat × Nat → List Range
  | (start, next) => if start + 1 < next then [⟨start, next - 1, kind⟩] else []

/-- The ranges of the sections of a document, of which there are none where nothing cuts it. -/
def ranges (p : Pattern) (kind : Kind) (document : Document) : List Range :=
  match cuts p 0 document with
  | [] => []
  | first :: later => (sections 0 (first :: later) document.length).flatMap (range kind)

section Tiling

variable {p : Pattern} {kind : Kind} {start line lines place : Nat} {later : List Nat}

theorem cuts_cons (text : Line) (rest : Document) :
    cuts p line (text :: rest) =
      if p.matches? text then line :: cuts p (line + 1) rest else cuts p (line + 1) rest := by
  cases matched : p.matches? text <;> simp [cuts, matched]

theorem cuts_ordered (p : Pattern) (line : Nat) (document : Document) :
    (line :: (cuts p line document ++ [line + document.length])).Pairwise (· ≤ ·) := by
  induction document generalizing line with
  | nil => simp [cuts]
  | cons text rest ih =>
    have further := ih (line + 1)
    rw [List.pairwise_cons] at further
    obtain ⟨above, ordered⟩ := further
    rw [Nat.add_right_comm] at above ordered
    have before : ∀ cut ∈ cuts p (line + 1) rest ++ [line + rest.length + 1], line ≤ cut :=
      fun cut member => Nat.le_of_succ_le (above cut member)
    rw [cuts_cons, List.length_cons]
    split
    · exact List.pairwise_cons.mpr
        ⟨List.forall_mem_cons.mpr ⟨Nat.le_refl _, before⟩, List.pairwise_cons.mpr ⟨before, ordered⟩⟩
    · exact List.pairwise_cons.mpr ⟨before, ordered⟩

theorem sections_above (ordered : (start :: (later ++ [lines])).Pairwise (· ≤ ·)) :
    ∀ s ∈ sections start later lines, start ≤ s.1 := by
  induction later generalizing start with
  | nil => simp [sections]
  | cons cut later ih =>
    obtain ⟨above, ordered⟩ := List.pairwise_cons.mp ordered
    refine List.forall_mem_cons.mpr ⟨Nat.le_refl _, fun s member => ?_⟩
    exact Nat.le_trans (above cut List.mem_cons_self) (ih ordered s member)

theorem sections_ordered (ordered : (start :: (later ++ [lines])).Pairwise (· ≤ ·)) :
    (sections start later lines).Pairwise fun a b => a.2 ≤ b.1 := by
  induction later generalizing start with
  | nil => exact List.pairwise_singleton _ _
  | cons cut later ih =>
    have ordered := (List.pairwise_cons.mp ordered).2
    exact List.pairwise_cons.mpr ⟨sections_above ordered, ih ordered⟩

theorem mem_range {s : Nat × Nat} {x : Range} :
    x ∈ range kind s ↔ s.1 + 1 < s.2 ∧ x = ⟨s.1, s.2 - 1, kind⟩ := by
  rw [range]
  split <;> simp [*]

theorem ranges_apart (ordered : (start :: (later ++ [lines])).Pairwise (· ≤ ·)) :
    ((sections start later lines).flatMap (range kind)).Pairwise fun x y => x.stop < y.start := by
  refine List.pairwise_flatMap.mpr ⟨fun s _ => ?_, (sections_ordered ordered).imp fun behind => ?_⟩
  · rw [range]
    split <;> simp
  · intro x member y member'
    obtain ⟨long, rfl⟩ := mem_range.mp member
    obtain ⟨-, rfl⟩ := mem_range.mp member'
    simp only
    omega

theorem mem_sections (above : start ≤ place) (below : place < lines) :
    ∃ s ∈ sections start later lines, s.1 ≤ place ∧ place < s.2 := by
  induction later generalizing start with
  | nil => exact ⟨(start, lines), List.mem_singleton_self _, above, below⟩
  | cons cut later ih =>
    by_cases before : place < cut
    · exact ⟨(start, cut), List.mem_cons_self, above, before⟩
    · obtain ⟨s, member, inside⟩ := ih (Nat.le_of_not_lt before)
      exact ⟨s, List.mem_cons_of_mem _ member, inside⟩

theorem covered (kind : Kind) (above : start ≤ place) (below : place < lines) :
    (∃ x ∈ (sections start later lines).flatMap (range kind), x.start ≤ place ∧ place ≤ x.stop) ∨
      (place, place + 1) ∈ sections start later lines := by
  obtain ⟨⟨first, next⟩, member, lower, upper⟩ :
      ∃ s ∈ sections start later lines, s.1 ≤ place ∧ place < s.2 := mem_sections above below
  by_cases long : first + 1 < next
  · exact .inl ⟨_, List.mem_flatMap.mpr ⟨_, member, mem_range.mpr ⟨long, rfl⟩⟩, lower,
      Nat.le_sub_one_of_lt upper⟩
  · have same : (first, next) = (place, place + 1) := by
      simp only at lower upper
      rw [Prod.mk.injEq]
      omega
    exact .inr (same ▸ member)

end Tiling

end Division

namespace Fold

open Division

variable {g : Grammar} {p : Pattern} {c : CompiledRule} {line place count : Nat} {text : Line}
  {section? : Option Nat} {ranges : List Range}

/-- A state of a scan in which at most a section of the only rule is open, with its first line. -/
def sectionState (section? : Option Nat) (ranges : List Range) : State :=
  ⟨section?.toList.map fun start => { rule := 0, start, isSection := true }, ranges, .normal⟩

/-- A grammar with one rule, whose separator divides documents. -/
structure Dividing (g : Grammar) (p : Pattern) (c : CompiledRule) : Prop where
  known : g.rules[0]? = some c
  matchers : c.matchers = .separator p
  /-- The separator is what is found. -/
  finds : ∀ text place, g.master.findAt text place = (p.find? text place).map fun own =>
    ⟨.separator, 0, own.start, own.stop, some ⟨own.start, own.stop⟩ :: own.groups⟩

namespace Dividing

theorem before_eq (dividing : Dividing g p c) (start line : Nat) :
    g.before 0 start line = range c.kind (start, line) := by
  simp [Grammar.before, Grammar.kind, dividing.known, range]

theorem separate (dividing : Dividing g p c) :
    (sectionState section? ranges).separate g line 0 =
      sectionState (some line) ((range c.kind (section?.getD 0, line)).reverse ++ ranges) := by
  cases section? with
  | none => simp [State.separate, sectionState, State.emit, State.push, dividing.before_eq]
  | some start => simp [State.separate, sectionState, State.splitTop, State.emit, dividing.before_eq]

theorem step (dividing : Dividing g p c) :
    Fold.step g line text (sectionState section? ranges) place = (p.find? text place).map fun own =>
      (sectionState (some line) ((range c.kind (section?.getD 0, line)).reverse ++ ranges),
        nextPlace own.start own.stop) := by
  have mode : (sectionState section? ranges).mode = .normal := rfl
  unfold Fold.step
  rw [mode, dividing.finds]
  cases p.find? text place with
  | none => rfl
  | some own => simp [State.onMarker, dividing.separate, MarkerMatch.start, MarkerMatch.stop]

theorem steps_again (dividing : Dividing g p c) :
    Fold.steps g line text count (sectionState (some line) ranges) place =
      sectionState (some line) ranges := by
  induction count generalizing place with
  | zero => rfl
  | succ count ih =>
    unfold Fold.steps
    split
    · rw [dividing.step]
      cases p.find? text place with
      | none => rfl
      | some own =>
        have nothing : range c.kind (line, line) = [] := if_neg (by omega)
        simp only [Option.map_some, Option.getD_some, nothing, List.reverse_nil, List.nil_append]
        exact ih
    · rfl

theorem endLine (dividing : Dividing g p c) :
    (sectionState section? ranges).endLine g line = sectionState section? ranges := by
  have plain : g.isContinuation 0 = false := by
    simp [Grammar.isContinuation, dividing.known, CompiledRule.isContinuation, CompiledRule.shape,
      dividing.matchers]
  cases section? <;> simp [State.endLine, sectionState, plain]

theorem readLine (dividing : Dividing g p c) :
    Fold.readLine g line text (sectionState section? ranges) =
      if p.matches? text then
        sectionState (some line) ((range c.kind (section?.getD 0, line)).reverse ++ ranges)
      else sectionState section? ranges := by
  have first : Fold.steps g line text (text.size + 1) (sectionState section? ranges) 0 =
      ((Fold.step g line text (sectionState section? ranges) 0).map fun next =>
        Fold.steps g line text text.size next.1 next.2).getD (sectionState section? ranges) := by
    rw [Fold.steps, if_pos (Nat.zero_le _)]
    cases Fold.step g line text (sectionState section? ranges) 0 <;> rfl
  have matched : p.matches? text = (p.find? text 0).isSome := rfl
  rw [Fold.readLine, first, dividing.step, matched]
  cases p.find? text 0 with
  | none => simp [dividing.endLine]
  | some own => simp [dividing.steps_again, dividing.endLine]

theorem finish_section (dividing : Dividing g p c) (start lines : Nat) (ranges : List Range) :
    (sectionState (some start) ranges).finish g lines = ranges.reverse ++ range c.kind (start, lines) := by
  simp [State.finish, sectionState, State.emit, dividing.before_eq]

theorem readLines_inside (dividing : Dividing g p c) (line start lines : Nat) (document : Document)
    (ranges : List Range) :
    (Fold.readLines g line document (sectionState (some start) ranges)).finish g lines =
      ranges.reverse ++ (sections start (cuts p line document) lines).flatMap (range c.kind) := by
  induction document generalizing line start ranges with
  | nil =>
    rw [Fold.readLines, dividing.finish_section]
    simp [cuts, sections]
  | cons text rest ih =>
    rw [Fold.readLines, dividing.readLine, cuts_cons]
    split
    · rw [ih]
      simp [sections]
    · exact ih ..

theorem readLines_outside (dividing : Dividing g p c) (line lines : Nat) (document : Document) :
    (Fold.readLines g line document (sectionState none [])).finish g lines =
      match cuts p line document with
      | [] => []
      | first :: later => (sections 0 (first :: later) lines).flatMap (range c.kind) := by
  induction document generalizing line with
  | nil => rfl
  | cons text rest ih =>
    rw [Fold.readLines, dividing.readLine, cuts_cons]
    split
    · rw [dividing.readLines_inside]
      simp [sections]
    · exact ih ..

theorem run_eq (dividing : Dividing g p c) (document : Document) :
    run g document = Division.ranges p c.kind document :=
  dividing.readLines_outside 0 document.length document

end Dividing

end Fold

namespace Rule

theorem compile_separator {r : Rule} {c : CompiledRule} (declared : r.shape? = some .separator)
    (compiled : r.compile = .ok c) :
    ∃ p, r.separator.source?.map Pattern.compile = some (.ok p) ∧ c.matchers = .separator p := by
  have matchers := (compile_cases compiled).1
  simp only [compileMatchers, declared] at matchers
  split at matchers
  · rename_i source present
    obtain ⟨p, marker, same⟩ := ok_of_bind matchers
    exact ⟨p, by rw [present, Option.map_some, compileMarker_eq marker], (Except.ok.inj same).symm⟩
  · cases matchers

end Rule

namespace RuleSet

open Division

theorem compile_dividing {r : Rule} {c : CompiledRule} {m : Master} {p : Pattern}
    (rules : (compile [r]).rules = [c]) (combined : (compile [r]).master = some m)
    (matchers : c.matchers = .separator p) : Fold.Dividing ((compile [r]).grammar m) p c where
  known := by rw [grammar, rules]; rfl
  matchers
  finds := compile_sole rules combined (by rw [CompiledRule.alternatives, matchers])

/-- A rule that is declared alone, with a separator, divides every document in front of the lines that the
separator matches in. The sections that hold more than one line are the ranges, in the order of the document
and apart from each other; if there is any cut, every other line is a section of its own. -/
theorem fold_divided {r : Rule} (declared : r.shape? = some .separator)
    (accepted : (compile [r]).rejected = []) :
    ∃ p, r.separator.source?.map Pattern.compile = some (.ok p) ∧ ∀ document : Document,
      (compile [r]).fold document = Division.ranges p r.kind document ∧
      ((compile [r]).fold document).Pairwise (fun x y => x.stop < y.start) ∧
      (cuts p 0 document ≠ [] → ∀ place < document.length,
        (∃ x ∈ (compile [r]).fold document, x.start ≤ place ∧ place ≤ x.stop) ∨
          (place, place + 1) ∈ sections 0 (cuts p 0 document) document.length) := by
  obtain ⟨c, m, compiled, rules, combined⟩ := compile_single accepted
  obtain ⟨p, source, matchers⟩ := Rule.compile_separator declared compiled
  have folded : ∀ document, (compile [r]).fold document = Division.ranges p r.kind document := by
    intro document
    have kind := (Rule.compile_switches compiled).2.2
    rw [fold_eq_run combined, (compile_dividing rules combined matchers).run_eq, kind]
  refine ⟨p, source, fun document => ⟨folded document, ?_⟩⟩
  rw [folded, Division.ranges]
  have ordered := cuts_ordered p 0 document
  rw [Nat.zero_add] at ordered
  cases divided : cuts p 0 document with
  | nil => exact ⟨.nil, fun cut => absurd rfl cut⟩
  | cons first later =>
    rw [divided] at ordered
    exact ⟨ranges_apart ordered, fun _ place inside => covered r.kind (Nat.zero_le _) inside⟩

/-- Dashes divide a document, wherever in a line they are. A comment follows the pattern. -/
def dashRule : Rule :=
  { separator := { regex := some "(?x)- # a dash\n" }, nested := false, kind := .comment }

set_option maxRecDepth 100000 in
/-- Dashes in three lines, of which two adjoin and one is the last, leave two sections that are ranges. -/
theorem fold_divided_by_dashes :
    dashRule.shape? = some .separator ∧ (compile [dashRule]).rejected = [] ∧
      (compile [dashRule]).fold (.ofLines ["a", "b", "--", "c-", "d", "-"]) =
        [⟨0, 1, .comment⟩, ⟨3, 4, .comment⟩] := by
  have declared : dashRule.shape? = some .separator := by decide +kernel
  have accepted : (compile [dashRule]).rejected = [] := by decide +kernel
  obtain ⟨p, source, divided⟩ := fold_divided declared accepted
  have cut : ((dashRule.separator.source?.map Pattern.compile).bind Except.toOption).all (fun p =>
      Division.ranges p dashRule.kind (.ofLines ["a", "b", "--", "c-", "d", "-"]) =
        [⟨0, 1, .comment⟩, ⟨3, 4, .comment⟩]) = true := by decide +kernel
  rw [source] at cut
  exact ⟨declared, accepted, (divided _).1.trans (of_decide_eq_true cut)⟩

end RuleSet

end Foldmark
