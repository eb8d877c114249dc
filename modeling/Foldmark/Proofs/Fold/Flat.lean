import Foldmark.Proofs.Fold.Brackets
import Foldmark.Proofs.Fold.Isolated
import Foldmark.Proofs.Rule.Unnested

/-! Rules that do not nest and whose markers are texts. Folding with one such rule reads the lines from left to
right and is either outside of all blocks, where the opening text is looked for, or inside a block,
where only the middle and the closing text count. -/
namespace Foldmark

/-- Texts that open blocks which do not nest, and what becomes of the blocks. -/
structure Flat where
  texts : Brackets
  lastLine : Bool
  kind : Kind

namespace Flat

open Brackets

/-- The texts that are looked for outside of all blocks, or inside a block whose open segment began on a
line, in the order in which they are tried. -/
def wanted (f : Flat) : Option Nat → List (Token × List Char)
  | none => [(.opening, f.texts.opening)]
  | some _ => (f.texts.middle.map fun text => (.middle, text)).toList ++ [(.closing, f.texts.closing)]

/-- The token with which some characters begin, of those that are looked for. -/
def front? (f : Flat) (segment : Option Nat) (chars : List Char) : Option (Token × List Char) :=
  (f.wanted segment).find? fun (_, text) => text.isPrefixOf chars

/-- The range of the open segment, if there is one, that a token on a line completes. -/
def completed (f : Flat) (line : Nat) : Option Nat → Token → List Range
  | none, _ => []
  | some start, .closing => span f.kind start (if f.lastLine then line else line - 1)
  | some start, _ => span f.kind start (line - 1)

def segment (line : Nat) : Token → Option Nat
  | .closing => none
  | _ => some line

/-- Reads the characters of a line, of which the first `skip` belong to a token that has been read: the ranges
of the segments that are completed, and the segment that is open at the end. -/
def readLine (f : Flat) (line : Nat) : Option Nat → Nat → List Char → List Range × Option Nat
  | start, _, [] => ([], start)
  | start, skip + 1, _ :: rest => f.readLine line start skip rest
  | start, 0, c :: rest =>
    match f.front? start (c :: rest) with
    | none => f.readLine line start 0 rest
    | some (token, text) =>
      let (ranges, last) := f.readLine line (segment line token) (text.length - 1) rest
      (f.completed line start token ++ ranges, last)

/-- Reads lines, of which the first has the number `line`. A block that is open at the end is dropped. -/
def readLines (f : Flat) : Option Nat → Nat → Document → List Range
  | _, _, [] => []
  | start, line, text :: rest =>
    let (ranges, start) := f.readLine line start 0 text.toList
    ranges ++ f.readLines start (line + 1) rest

/-- The ranges between the texts of a document. -/
def ranges (f : Flat) (document : Document) : List Range := f.readLines none 0 document

section Reading

variable {f : Flat} {line : Nat} {start : Option Nat} {chars text : List Char} {token : Token}

theorem readLine_drop (skip : Nat) (chars : List Char) :
    f.readLine line start skip chars = f.readLine line start 0 (chars.drop skip) := by
  induction skip generalizing chars with
  | zero => rfl
  | succ skip ih =>
    cases chars with
    | nil => rfl
    | cons c rest => exact ih rest

theorem readLine_until (count : Nat)
    (nowhere : ∀ place < count, f.front? start (chars.drop place) = none) :
    f.readLine line start 0 chars = f.readLine line start 0 (chars.drop count) := by
  induction count generalizing chars with
  | zero => rfl
  | succ count ih =>
    cases chars with
    | nil => rfl
    | cons c rest =>
      have here : f.front? start (c :: rest) = none := nowhere 0 (Nat.succ_pos _)
      rw [readLine, here, List.drop_succ_cons]
      exact ih fun place below => nowhere (place + 1) (Nat.succ_lt_succ below)

/-- A token is read where it begins, and the search goes on behind it for what is looked for then. -/
theorem readLine_front (front : f.front? start chars = some (token, text)) (occupied : text ≠ []) :
    f.readLine line start 0 chars =
      (f.completed line start token ++
          (f.readLine line (segment line token) 0 (chars.drop text.length)).1,
        (f.readLine line (segment line token) 0 (chars.drop text.length)).2) := by
  have begins : text.isPrefixOf chars = true := by simpa using List.find?_some front
  obtain ⟨first, more, rfl⟩ := List.exists_cons_of_ne_nil occupied
  cases chars with
  | nil => simp at begins
  | cons c rest =>
    rw [readLine, front]
    simp only [List.length_cons, Nat.add_sub_cancel, List.drop_succ_cons]
    rw [readLine_drop]

end Reading

end Flat

namespace Fold

open Brackets

variable {g : Grammar} {f : Flat} {c : CompiledRule} {line place : Nat} {text : Line}

/-- A state of a scan with one rule: no block is open, or one whose open segment began on a line. -/
def flatState (start : Option Nat) (ranges : List Range) : State :=
  after { rule := 0, start := 0 } [] ranges start

/-- What a search for the tokens that are looked for reports: the token that is found first, where it begins and
where it ends. -/
def Reads (f : Flat) (start : Option Nat) (text : Line) (place : Nat) :
    Option (Token × Nat × Nat) → Prop
  | none => ∀ further, place ≤ further → further ≤ text.size →
      f.front? start (text.toList.drop further) = none
  | some (token, first, stop) => place ≤ first ∧ first < stop ∧
      (∃ own, f.front? start (text.toList.drop first) = some (token, own) ∧
        stop = first + own.length) ∧
      ∀ further, place ≤ further → further < first →
        f.front? start (text.toList.drop further) = none

theorem Reads.readLine {start : Option Nat} {found : Option (Token × Nat × Nat)}
    (reads : Reads f start text place found) :
    f.readLine line start 0 (text.toList.drop place) =
      match found with
      | none => ([], start)
      | some (token, _, stop) =>
        (f.completed line start token ++
            (f.readLine line (Flat.segment line token) 0 (text.toList.drop stop)).1,
          (f.readLine line (Flat.segment line token) 0 (text.toList.drop stop)).2) := by
  cases found with
  | none =>
    rw [Flat.readLine_until (text.size - place), List.drop_drop, List.drop_eq_nil_of_le]
    · rfl
    · simp
      omega
    · intro further below
      rw [List.drop_drop]
      exact reads _ (by omega) (by omega)
  | some found =>
    obtain ⟨token, first, stop⟩ := found
    obtain ⟨ahead, forward, ⟨own, front, rfl⟩, nowhere⟩ := reads
    have occupied : own ≠ [] := by
      rintro rfl
      simp at forward
    rw [Flat.readLine_until (first - place), List.drop_drop, Nat.add_sub_cancel' ahead,
      Flat.readLine_front front occupied, List.drop_drop]
    intro further below
    rw [List.drop_drop]
    exact nowhere _ (by omega) (by omega)

/-- A grammar with one rule, which does not nest, whose markers are texts. -/
structure Flattened (g : Grammar) (f : Flat) (c : CompiledRule) : Prop where
  known : g.rules[0]? = some c
  matchers : ∃ first between last unnested, c.matchers = .paired first between last unnested none
  alone : c.nested = false
  switches : c.foldLastLine = f.lastLine ∧ c.kind = f.kind
  /-- Outside of all blocks, the opening text is what is found. -/
  outside : ∀ text place, ∃ found?, Reads f none text place found? ∧
    match found? with
    | none => g.master.findAt text place = none
    | some (_, first, stop) => ∃ found, g.master.findAt text place = some found ∧
        found.rule = 0 ∧ found.role = .opening ∧ found.start = first ∧ found.stop = stop
  /-- Inside a block, the middle and the closing text are what is found. -/
  inside : ∀ start text place, ∃ found?, Reads f (some start) text place found? ∧
    c.findUnnested text place =
      found?.map fun (token, first, stop) => ⟨token.role, first, stop⟩

namespace Flattened

variable {start : Option Nat} {ranges : List Range}

theorem opens (flat : Flattened g f c) (line : Nat) (text : Line) {found : MarkerMatch}
    (rule : found.rule = 0) (role : found.role = .opening) :
    (flatState none ranges).onMarker g line text found = (flatState (some line) ranges, none) := by
  obtain ⟨first, between, last, unnested, matchers⟩ := flat.matchers
  simp [flatState, after, State.onMarker, role, State.mayOpen, State.openBlock, rule, flat.known,
    matchers, flat.alone, State.push]

theorem step (flat : Flattened g f c) (start : Option Nat) (ranges : List Range) (line : Nat)
    (text : Line) (place : Nat) :
    ∃ found?, Reads f start text place found? ∧
      Fold.step g line text (flatState start ranges) place = found?.map fun (token, _, stop) =>
        (flatState (Flat.segment line token) ((f.completed line start token).reverse ++ ranges),
          stop) := by
  cases start with
  | none =>
    obtain ⟨found?, reads, searched⟩ := flat.outside text place
    refine ⟨found?, reads, ?_⟩
    cases found? with
    | none => simp [Fold.step, flatState, after, searched]
    | some found =>
      obtain ⟨token, first, stop⟩ := found
      obtain ⟨-, forward, ⟨own, front, -⟩, -⟩ := reads
      obtain ⟨found, atPlace, rule, role, rfl, rfl⟩ := searched
      have opening : token = .opening := by
        have member := List.mem_of_find?_eq_some front
        simpa [Flat.wanted] using congrArg Prod.fst (List.mem_singleton.mp member)
      have mode : (flatState none ranges).mode = .normal := rfl
      simp [Fold.step, mode, atPlace, flat.opens line text rule role, opening, Flat.segment,
        Flat.completed, nextPlace, forward]
  | some start =>
    obtain ⟨found?, reads, searched⟩ := flat.inside start text place
    refine ⟨found?, reads, ?_⟩
    have alone : Alone g c { rule := 0, start } [] (flatState (some start) ranges) :=
      ⟨rfl, rfl, flat.known⟩
    cases found? with
    | none => exact step_fails alone searched
    | some found =>
      obtain ⟨token, first, stop⟩ := found
      obtain ⟨-, forward, ⟨own, front, -⟩, -⟩ := reads
      have next : nextPlace first stop = stop := if_pos forward
      have member : token = .middle ∨ token = .closing := by
        have member := List.mem_of_find?_eq_some front
        simp only [Flat.wanted, List.mem_append, Option.mem_toList, Option.map_eq_some_iff,
          Prod.mk.injEq, List.mem_singleton] at member
        rcases member with ⟨_, -, rfl, -⟩ | ⟨rfl, -⟩
        · exact .inl rfl
        · exact .inr rfl
      rcases member with rfl | rfl
      · rw [step_divides alone searched rfl, State.splitTop_cons alone.stack,
          before_eq_span flat.known, flat.switches.2]
        simp [Flat.segment, Flat.completed, next, flatState, after]
      · have accepted : State.accepts { rule := 0, start } text first = some none := rfl
        rw [step_accepts alone searched rfl accepted, State.closeTop_cons alone.stack,
          closed_eq_span flat.known, flat.switches.1, flat.switches.2]
        simp [Flat.segment, Flat.completed, next, flatState, after]

theorem steps (flat : Flattened g f c) (line : Nat) (text : Line) (count place : Nat)
    (start : Option Nat) (ranges : List Range) (enough : text.size < place + count) :
    Fold.steps g line text count (flatState start ranges) place =
      flatState (f.readLine line start 0 (text.toList.drop place)).2
        ((f.readLine line start 0 (text.toList.drop place)).1.reverse ++ ranges) := by
  induction count generalizing start ranges place with
  | zero =>
    have outside : text.toList.length ≤ place := Nat.le_of_lt enough
    rw [List.drop_eq_nil_of_le outside]
    rfl
  | succ count ih =>
    obtain ⟨found?, reads, stepped⟩ := flat.step start ranges line text place
    unfold Fold.steps
    split
    · rw [stepped, reads.readLine]
      cases found? with
      | none => rfl
      | some found =>
        obtain ⟨token, first, stop⟩ := found
        obtain ⟨ahead, forward, -⟩ := reads
        simp only [Option.map_some]
        rw [ih stop _ _ (by omega)]
        simp
    · rename_i outside
      rw [List.drop_eq_nil_of_le (by simp; omega)]
      rfl

theorem endLine (flat : Flattened g f c) (start : Option Nat) (ranges : List Range) (line : Nat) :
    (flatState start ranges).endLine g line = flatState start ranges := by
  obtain ⟨first, between, last, unnested, matchers⟩ := flat.matchers
  cases start with
  | none => rfl
  | some start =>
    have alone : Alone g c { rule := 0, start } [] (flatState (some start) ranges) :=
      ⟨rfl, rfl, flat.known⟩
    exact endLine_alone alone (by simp [CompiledRule.shape, matchers])

theorem readLines (flat : Flattened g f c) (line : Nat) (document : Document) (start : Option Nat)
    (ranges : List Range) :
    ∃ last, Fold.readLines g line document (flatState start ranges) =
      flatState last ((f.readLines start line document).reverse ++ ranges) := by
  induction document generalizing line start ranges with
  | nil => exact ⟨start, rfl⟩
  | cons text rest ih =>
    have read := flat.steps line text (text.size + 1) 0 start ranges (by omega)
    rw [List.drop_zero] at read
    rw [Fold.readLines, Fold.readLine, read, flat.endLine]
    obtain ⟨last, further⟩ := ih (line + 1) (f.readLine line start 0 text.toList).2
      ((f.readLine line start 0 text.toList).1.reverse ++ ranges)
    refine ⟨last, further.trans ?_⟩
    simp [Flat.readLines]

theorem run_eq (flat : Flattened g f c) (document : Document) : run g document = f.ranges document := by
  obtain ⟨last, read⟩ := flat.readLines 0 document none []
  have begun : flatState none [] = .start := rfl
  have noSections : (flatState last ((f.readLines none 0 document).reverse ++ [])).stack.filter
      (·.isSection) = [] := by
    cases last <;> rfl
  have kept : ∀ (start : Option Nat) (ranges : List Range), (flatState start ranges).ranges = ranges := by
    intro start ranges
    cases start <;> rfl
  rw [run, ← begun, read, State.finish, noSections]
  simp [kept, Flat.ranges]

end Flattened

section Marks

variable {start : Option Nat} {before after : List Candidate} {a : Candidate}

theorem reads_nothing {candidates : List Candidate} (marks : List.Forall₂ Marks candidates (f.wanted start))
    (nowhere : ∀ a ∈ candidates, ∀ further, place ≤ further → further ≤ text.size →
      a.pattern.node.matchAt text further = none) : Reads f start text place none :=
  fun further above below => find?_of_none marks fun a member => nowhere a member further above below

theorem reads_first (marks : List.Forall₂ Marks (before ++ a :: after) (f.wanted start))
    (occupied : ∀ token own, (token, own) ∈ f.wanted start → own ≠ []) {first : Nat}
    {own : Pattern.Found} (matched : a.pattern.node.matchAt text first = some own)
    (others : ∀ b ∈ before, b.pattern.node.matchAt text first = none) (ahead : place ≤ first)
    (earlier : ∀ b ∈ before ++ a :: after, ∀ further, place ≤ further → further < first →
      b.pattern.node.matchAt text further = none) :
    ∃ token : Token, a.role = token.role ∧ a.rule = 0 ∧
      Reads f start text place (some (token, first, own.stop)) := by
  obtain ⟨token, chars, front, rule, role, stop⟩ := find?_of_first marks others matched
  have length := List.length_pos_iff.mpr (occupied token chars (List.mem_of_find?_eq_some front))
  refine ⟨token, role, rule, ahead, by omega, ⟨chars, front, stop⟩, fun further above below => ?_⟩
  exact find?_of_none marks fun b member => earlier b member further above below

end Marks

end Fold

namespace RuleSet

open Fold

variable {r : Rule} {opening closing : String} {middle : Option String}

def onlyRule (a : Role × Pattern) : Candidate := ⟨0, a.1, a.2⟩

theorem literal_marks {c : CompiledRule} (literal : r.Literal opening middle closing)
    (compiled : r.compile = .ok c) (alone : c.nested = false) (lastLine : Bool) (kind : Kind) :
    (∃ first between last unnested, c.matchers = .paired first between last unnested none) ∧
    List.Forall₂ Marks (Candidate.ofRules [c])
      (Flat.wanted ⟨.ofTexts opening middle closing, lastLine, kind⟩ none) ∧
    ∀ start, List.Forall₂ Marks (c.inner.map onlyRule)
      (Flat.wanted ⟨.ofTexts opening middle closing, lastLine, kind⟩ (some start)) := by
  obtain ⟨first, between, last, unnested, matchers, firstSpells, lastSpells, parts⟩ :=
    literal.compile_matchers compiled
  refine ⟨⟨first, between, last, unnested, matchers⟩, ?_, fun start => ?_⟩
  · simp [Candidate.ofRules, CompiledRule.alternatives, matchers, alone, Flat.wanted, Brackets.ofTexts,
      Marks, Brackets.Token.role, firstSpells]
  · cases parts with
    | none =>
      simp [CompiledRule.inner, matchers, Flat.wanted, Brackets.ofTexts, Marks, Brackets.Token.role,
        onlyRule, lastSpells]
    | some middleSpells =>
      simp [CompiledRule.inner, matchers, Flat.wanted, Brackets.ofTexts, Marks, Brackets.Token.role,
        onlyRule, lastSpells, middleSpells]

theorem wanted_occupied (literal : r.Literal opening middle closing) {lastLine : Bool} {kind : Kind}
    {start : Option Nat} {token : Brackets.Token} {own : List Char}
    (member : (token, own) ∈ Flat.wanted ⟨.ofTexts opening middle closing, lastLine, kind⟩ start) :
    own ≠ [] := by
  cases start with
  | none => exact texts_occupied literal (List.mem_cons.mpr (.inl (List.mem_singleton.mp member)))
  | some start => exact texts_occupied literal (List.mem_cons_of_mem _ member)

theorem findUnnested_reads {c : CompiledRule} (literal : r.Literal opening middle closing)
    (compiled : r.compile = .ok c) (alone : c.nested = false) (lastLine : Bool) (kind : Kind)
    (start : Nat) (text : Line) (place : Nat) :
    ∃ found?, Reads ⟨.ofTexts opening middle closing, lastLine, kind⟩ (some start) text place found? ∧
      c.findUnnested text place =
        found?.map fun (token, first, stop) => ⟨token.role, first, stop⟩ := by
  obtain ⟨⟨first, between, last, unnested, matchers⟩, -, inside⟩ :=
    literal_marks literal compiled alone lastLine kind
  have marks := inside start
  have spells : ∀ a ∈ c.inner, ∃ chars, a.2.Spells chars :=
    fun a member => spells_of_marks marks (onlyRule a) (List.mem_map_of_mem member)
  have free : ∀ a ∈ c.inner, a.2.verboseFree = true := by
    intro a member
    obtain ⟨chars, own⟩ := spells a member
    exact own.free
  have unnamed : ∀ a ∈ c.inner, ∀ name ∈ [unnestedMiddle, unnestedClosing],
      some name ∉ a.2.groupNames := by
    intro a member name _
    obtain ⟨chars, own⟩ := spells a member
    simp [own.groupNames]
  have paired : c.shape = .paired := by simp [CompiledRule.shape, matchers]
  have finds := CompiledRule.findUnnested_finds compiled alone paired free unnamed text place
  cases searched : c.findUnnested text place with
  | none =>
    rw [searched] at finds
    refine ⟨none, reads_nothing marks fun a member => ?_, rfl⟩
    obtain ⟨own, isInner, rfl⟩ := List.mem_map.mp member
    exact finds own isInner
  | some found =>
    rw [searched] at finds
    obtain ⟨above, -, ⟨before, a, after, own, split, role, matched, stop, others⟩, earlier⟩ := finds
    rw [split, List.map_append, List.map_cons] at marks
    have othersToo : ∀ b ∈ before.map onlyRule, b.pattern.node.matchAt text found.start = none := by
      intro b member
      obtain ⟨other, isBefore, rfl⟩ := List.mem_map.mp member
      exact others other isBefore
    have earlierToo : ∀ b ∈ before.map onlyRule ++ onlyRule a :: after.map onlyRule, ∀ further,
        place ≤ further → further < found.start → b.pattern.node.matchAt text further = none := by
      intro b member
      rw [← List.map_cons, ← List.map_append, ← split] at member
      obtain ⟨other, isInner, rfl⟩ := List.mem_map.mp member
      exact earlier other isInner
    obtain ⟨token, ownRole, -, reads⟩ := reads_first marks (fun _ _ => wanted_occupied literal) matched
      othersToo above earlierToo
    have same : token.role = found.role := ownRole.symm.trans role.symm
    exact ⟨_, reads, by simp [same, ← stop]⟩

theorem compile_flattened (literal : r.Literal opening middle closing) (alone : r.nested = false)
    (accepted : (compile [r]).rejected = []) :
    ∃ c m, (compile [r]).master = some m ∧ Flattened ((compile [r]).grammar m)
      ⟨.ofTexts opening middle closing, r.foldLastLine, r.kind⟩ c := by
  obtain ⟨c, m, compiled, rules, combined⟩ := compile_single accepted
  obtain ⟨nests, lastLine, kind⟩ := Rule.compile_switches compiled
  have single : c.nested = false := nests.trans alone
  obtain ⟨matchers, outside, inside⟩ := literal_marks literal compiled single r.foldLastLine r.kind
  rw [← rules] at outside
  refine ⟨c, m, combined, by simp [grammar, rules], matchers, single, ⟨lastLine, kind⟩,
    fun text place => ?_, fun start text place => ?_⟩
  · rcases compile_reports combined (verboseFree_of_marks outside) text place with ⟨nothing, nowhere⟩ |
      ⟨found, a, own, reported, reports⟩
    · refine ⟨none, reads_nothing outside fun a member => ?_, nothing⟩
      exact Pattern.Node.search_eq_none.mp (nowhere a member)
    · obtain ⟨before, after, split, others⟩ := reports.first
      have earlier := reports.earlier
      rw [split] at earlier
      rw [candidates] at split
      obtain ⟨token, ownRole, ownRule, reads⟩ := reads_first (split ▸ outside)
        (fun _ _ => wanted_occupied literal) reports.matched others reports.above earlier
      have opening : a.role = .opening := by
        have member : a ∈ Candidate.ofRules (compile [r]).rules := reports.mem
        obtain ⟨first, between, last, unnested, paired⟩ := matchers
        simp [rules, Candidate.ofRules, CompiledRule.alternatives, paired, single] at member
        rw [member]
      exact ⟨_, reads, found, reported, reports.rule.trans ownRule, reports.role.trans opening, rfl,
        reports.stop⟩
  · exact findUnnested_reads literal compiled single _ _ start text place

/-- Folding with one rule that does not nest, and whose markers are texts, is a flat scan in reading order: the
next opening text begins a block, and inside a block the next middle text divides it and the next
closing text ends it, whatever else stands there. The middle text is tried first. Every segment that
spans more than one line becomes a range when it is complete, and a block that is open at the end
leaves no more than its completed segments. -/
theorem fold_flat (literal : r.Literal opening middle closing) (alone : r.nested = false)
    (accepted : (compile [r]).rejected = []) (document : Document) :
    (compile [r]).fold document =
      Flat.ranges ⟨.ofTexts opening middle closing, r.foldLastLine, r.kind⟩ document := by
  obtain ⟨c, m, combined, flat⟩ := compile_flattened literal alone accepted
  rw [fold_eq_run combined, flat.run_eq]

/-- Comments that are divided by lines, and whose last line is not part of the range. -/
def dividedRule : Rule :=
  { commentRule with middle := { text := some "--" }, foldLastLine := false, kind := .comment }

set_option maxRecDepth 100000 in
/-- The text behind an opening one cannot close the block together with it, an opening text inside the block is
no marker, and the next block may begin on the line on which one ends. -/
theorem fold_flat_of_comments :
    dividedRule.Literal "/*" (some "--") "*/" ∧ dividedRule.nested = false ∧
      (compile [dividedRule]).rejected = [] ∧
      (compile [dividedRule]).fold (.ofLines ["a /*/ b", "/* x", "-- */ /*", "y", "", "*/*", "/*"]) =
        [⟨0, 1, .comment⟩, ⟨2, 4, .comment⟩] := by
  have literal : dividedRule.Literal "/*" (some "--") "*/" :=
    ⟨rfl, rfl, rfl, by decide, by decide, by decide, by decide⟩
  have accepted : (compile [dividedRule]).rejected = [] := by decide +kernel
  refine ⟨literal, rfl, accepted, ?_⟩
  rw [fold_flat literal rfl accepted]
  decide

end RuleSet

end Foldmark
