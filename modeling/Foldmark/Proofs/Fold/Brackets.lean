import Foldmark.Proofs.Fold.State
import Foldmark.Proofs.Rule.Literal

/-! Rules whose markers are texts. Folding with one such rule, which nests, is bracket matching: the texts are
read from left to right, and the segments that they complete are found by looking back and counting. -/
namespace Foldmark

/-- The texts that open a block, divide it and close it. -/
structure Brackets where
  opening : List Char
  middle : Option (List Char)
  closing : List Char

namespace Brackets

def ofTexts (opening : String) (middle : Option String) (closing : String) : Brackets :=
  ⟨opening.toList, middle.map String.toList, closing.toList⟩

inductive Token
  | opening | middle | closing
deriving DecidableEq, Repr

def Token.role : Token → Role
  | .opening => .opening
  | .middle => .middle
  | .closing => .closing

/-- The texts that are looked for at a place, in the order in which they are tried. -/
def texts (t : Brackets) : List (Token × List Char) :=
  (.opening, t.opening) :: ((t.middle.map fun text => (.middle, text)).toList ++ [(.closing, t.closing)])

def front? (t : Brackets) (chars : List Char) : Option (Token × List Char) :=
  t.texts.find? fun (_, text) => text.isPrefixOf chars

/-- The tokens among some characters, of which the first `skip` belong to a token that has been read. -/
def tokens (t : Brackets) : Nat → List Char → List Token
  | _, [] => []
  | skip + 1, _ :: rest => t.tokens skip rest
  | 0, c :: rest =>
    match t.front? (c :: rest) with
    | some (token, text) => token :: t.tokens (text.length - 1) rest
    | none => t.tokens 0 rest

/-- The tokens of some lines, of which the first has the number `line`, with their lines. -/
def lineTokens (t : Brackets) : Nat → Document → List (Token × Nat)
  | _, [] => []
  | line, text :: rest =>
    (t.tokens 0 text.toList).map (fun token => (token, line)) ++ t.lineTokens (line + 1) rest

/-- The first line of the segment that is open behind some tokens, newest first, inside the innermost open
block, or with `depth` in the block that lies around as many open ones. -/
def segmentStart? : List (Token × Nat) → Nat → Option Nat
  | [], _ => none
  | (.opening, line) :: _, 0 => some line
  | (.opening, _) :: earlier, depth + 1 => segmentStart? earlier depth
  | (.middle, line) :: earlier, 0 => (segmentStart? earlier 0).map fun _ => line
  | (.middle, _) :: earlier, depth + 1 => segmentStart? earlier (depth + 1)
  | (.closing, _) :: earlier, depth => segmentStart? earlier (depth + 1)

def span (kind : Kind) (start stop : Nat) : List Range :=
  if start < stop then [⟨start, stop, kind⟩] else []

/-- The range of the segment that a token completes behind earlier ones, newest first. -/
def completed (lastLine : Bool) (kind : Kind) (earlier : List (Token × Nat)) :
    Token × Nat → List Range
  | (.opening, _) => []
  | (.middle, line) =>
    match segmentStart? earlier 0 with
    | some start => span kind start (line - 1)
    | none => []
  | (.closing, line) =>
    match segmentStart? earlier 0 with
    | some start => span kind start (if lastLine then line else line - 1)
    | none => []

/-- The ranges of the segments that tokens complete one after the other. -/
def completions (lastLine : Bool) (kind : Kind) :
    List (Token × Nat) → List (Token × Nat) → List Range
  | _, [] => []
  | earlier, token :: rest =>
    completed lastLine kind earlier token ++ completions lastLine kind (token :: earlier) rest

/-- The ranges between the brackets of a document. -/
def ranges (t : Brackets) (lastLine : Bool) (kind : Kind) (document : Document) : List Range :=
  completions lastLine kind [] (t.lineTokens 0 document)

section Reading

variable {t : Brackets} {chars text : List Char} {token : Token}

theorem tokens_drop (skip : Nat) (chars : List Char) :
    t.tokens skip chars = t.tokens 0 (chars.drop skip) := by
  induction skip generalizing chars with
  | zero => rfl
  | succ skip ih =>
    cases chars with
    | nil => rfl
    | cons c rest => exact ih rest

theorem tokens_until (count : Nat)
    (nowhere : ∀ place < count, t.front? (chars.drop place) = none) :
    t.tokens 0 chars = t.tokens 0 (chars.drop count) := by
  induction count generalizing chars with
  | zero => rfl
  | succ count ih =>
    cases chars with
    | nil => rfl
    | cons c rest =>
      have here : t.front? (c :: rest) = none := nowhere 0 (Nat.succ_pos _)
      rw [tokens, here, List.drop_succ_cons]
      exact ih fun place below => nowhere (place + 1) (Nat.succ_lt_succ below)

theorem tokens_front (front : t.front? chars = some (token, text)) (occupied : text ≠ []) :
    t.tokens 0 chars = token :: t.tokens 0 (chars.drop text.length) := by
  have begins : text.isPrefixOf chars = true := by simpa using List.find?_some front
  obtain ⟨first, more, rfl⟩ := List.exists_cons_of_ne_nil occupied
  cases chars with
  | nil => simp at begins
  | cons c rest =>
    rw [tokens, front]
    simp only [List.length_cons, Nat.add_sub_cancel, List.drop_succ_cons]
    rw [tokens_drop]

theorem completions_append (lastLine : Bool) (kind : Kind) (earlier first second : List (Token × Nat)) :
    completions lastLine kind earlier (first ++ second) =
      completions lastLine kind earlier first ++
        completions lastLine kind (first.reverse ++ earlier) second := by
  induction first generalizing earlier with
  | nil => rfl
  | cons token rest ih => simp [completions, ih]

end Reading

end Brackets

namespace Fold

open Brackets

variable {g : Grammar} {t : Brackets} {line place : Nat} {text : Line} {s : State} {c : CompiledRule}
  {history : List (Token × Nat)} {token : Token}

/-- A grammar with one rule, which nests, whose markers are the texts of some brackets. -/
structure Bracketed (g : Grammar) (t : Brackets) (c : CompiledRule) : Prop where
  known : g.rules[0]? = some c
  matchers : ∃ first between last unnested, c.matchers = .paired first between last unnested none
  nested : c.nested = true
  occupied : ∀ token text, (token, text) ∈ t.texts → text ≠ []
  absent : ∀ text place, g.master.findAt text place = none → ∀ further, place ≤ further →
    further ≤ text.size → t.front? (text.toList.drop further) = none
  present : ∀ text place found, g.master.findAt text place = some found →
    found.rule = 0 ∧ place ≤ found.start ∧ found.start ≤ text.size ∧
    (∃ token own, t.front? (text.toList.drop found.start) = some (token, own) ∧
      found.role = token.role ∧ found.stop = found.start + own.length) ∧
    ∀ further, place ≤ further → further < found.start → t.front? (text.toList.drop further) = none

/-- The open blocks are those that the tokens so far have left open. -/
structure Follows (s : State) (history : List (Token × Nat)) : Prop where
  mode : s.mode = .normal
  plain : ∀ b ∈ s.stack, b.rule = 0 ∧ b.expected = none ∧ b.isSection = false
  starts : ∀ depth, segmentStart? history depth = (s.stack.map (·.start))[depth]?

/-- What tokens that are read make of a state: the blocks that they leave open, and the ranges that they
complete. -/
structure Completes (c : CompiledRule) (read history : List (Token × Nat)) (s next : State) : Prop where
  follows : Follows next (read.reverse ++ history)
  ranges : next.ranges =
    (completions c.foldLastLine c.kind history read).reverse ++ s.ranges

namespace Completes

variable {read more : List (Token × Nat)} {middle next : State}

theorem none (follows : Follows s history) : Completes c [] history s s := ⟨follows, rfl⟩

theorem single (follows : Follows next ((token, line) :: history))
    (ranges : next.ranges =
      (completed c.foldLastLine c.kind history (token, line)).reverse ++ s.ranges) :
    Completes c [(token, line)] history s next :=
  ⟨follows, by simpa [completions] using ranges⟩

theorem trans (first : Completes c read history s middle)
    (second : Completes c more (read.reverse ++ history) middle next) :
    Completes c (read ++ more) history s next := by
  refine ⟨?_, ?_⟩
  · simpa using second.follows
  · rw [second.ranges, first.ranges, completions_append]
    simp

end Completes

theorem before_eq_span {rule : Nat} (known : g.rules[rule]? = some c) (start line : Nat) :
    g.before rule start line = span c.kind start (line - 1) := by
  have kind : g.kind rule = c.kind := by simp [Grammar.kind, known]
  unfold Grammar.before span
  rw [kind]
  split_ifs <;> first | rfl | omega

/-- The last segment of a block takes in the line with the closing marker, or ends before it. -/
theorem closed_eq_span {b : Block} (known : g.rules[b.rule]? = some c) (line : Nat) :
    g.closed b line = span c.kind b.start (if c.foldLastLine then line else line - 1) := by
  have kind : g.kind b.rule = c.kind := by simp [Grammar.kind, known]
  have lastLine : g.foldsLastLine b.rule = c.foldLastLine := by simp [Grammar.foldsLastLine, known]
  rw [Grammar.closed, lastLine, before_eq_span known]
  split
  · simp [span, kind]
  · rfl

theorem Follows.owner? (follows : Follows s history) {rule : Nat} (own : rule = 0) :
    s.owner? rule = s.stack.head? := by
  unfold State.owner?
  cases stack : s.stack with
  | nil => rfl
  | cons top below =>
    obtain ⟨same, -, plain⟩ := follows.plain top (by simp [stack])
    simp [plain, same, own]

theorem Follows.endSections (follows : Follows s history) : s.endSections g line = s := by
  obtain ⟨stack, ranges, mode⟩ := s
  cases stack with
  | nil => rfl
  | cons top below =>
    obtain ⟨-, -, plain⟩ := follows.plain top List.mem_cons_self
    simp [State.endSections, State.emit, plain]

theorem Follows.segmentStart? (follows : Follows s history) :
    Brackets.segmentStart? history 0 = s.stack.head?.map (·.start) := by
  rw [follows.starts, ← List.head?_eq_getElem?, List.head?_map]

theorem Follows.ignored (follows : Follows s history) (empty : s.stack = [])
    (other : token ≠ .opening) : Completes c [(token, line)] history s s := by
  have nothing : ∀ depth, Brackets.segmentStart? history depth = none := by
    intro depth
    rw [follows.starts, empty]
    rfl
  refine .single ⟨follows.mode, follows.plain, fun depth => ?_⟩ ?_
  · rw [empty]
    cases token with
    | opening => exact absurd rfl other
    | middle => cases depth <;> simp [Brackets.segmentStart?, nothing]
    | closing => simp [Brackets.segmentStart?, nothing]
  · cases token with
    | opening => exact absurd rfl other
    | middle => simp [completed, nothing]
    | closing => simp [completed, nothing]

namespace Bracketed

theorem opens (bracketed : Bracketed g t c) (follows : Follows s history) {found : MarkerMatch}
    (rule : found.rule = 0) (role : found.role = .opening) :
    s.onMarker g line text found = (s.push { rule := 0, start := line }, none) := by
  obtain ⟨first, between, last, unnested, matchers⟩ := bracketed.matchers
  have mayOpen : s.mayOpen g = true := by
    unfold State.mayOpen
    split
    · rfl
    · rename_i top below stack
      obtain ⟨same, -⟩ := follows.plain top (by simp [stack])
      simp [Grammar.nests, same, bracketed.known, bracketed.nested]
  simp [State.onMarker, role, mayOpen, State.openBlock, rule, bracketed.known, matchers,
    bracketed.nested]

theorem onMarker (bracketed : Bracketed g t c) (follows : Follows s history) (line : Nat) (text : Line)
    {found : MarkerMatch} (rule : found.rule = 0) (role : found.role = token.role) :
    (s.onMarker g line text found).2 = none ∧
      Completes c [(token, line)] history s (s.onMarker g line text found).1 := by
  have owner := follows.owner? rule
  have start := follows.segmentStart?
  cases token with
  | opening =>
    rw [bracketed.opens follows rule role]
    refine ⟨rfl, .single ⟨follows.mode, ?_, fun depth => ?_⟩ rfl⟩
    · exact List.forall_mem_cons.mpr ⟨⟨rfl, rfl, rfl⟩, follows.plain⟩
    · cases depth with
      | zero => rfl
      | succ depth => exact follows.starts depth
  | middle =>
    cases stack : s.stack with
    | nil =>
      rw [stack] at owner
      have ignored : s.onMarker g line text found = (s, none) := by
        simp [State.onMarker, role, Token.role, owner]
      rw [ignored]
      exact ⟨rfl, follows.ignored stack (by simp)⟩
    | cons top below =>
      rw [stack] at owner start
      obtain ⟨same, unmirrored, plain⟩ := follows.plain top (by simp [stack])
      have split : s.onMarker g line text found = (s.splitTop g line, none) := by
        simp [State.onMarker, role, Token.role, owner, follows.endSections]
      rw [split, State.splitTop_cons stack]
      refine ⟨rfl, .single ⟨follows.mode, ?_, fun depth => ?_⟩ ?_⟩
      · exact List.forall_mem_cons.mpr ⟨⟨same, unmirrored, plain⟩,
          fun b member => follows.plain b (by simp [stack, member])⟩
      · cases depth with
        | zero => simp [Brackets.segmentStart?, start]
        | succ depth => simpa [Brackets.segmentStart?, stack] using follows.starts (depth + 1)
      · simp [completed, start, same, before_eq_span bracketed.known]
  | closing =>
    cases stack : s.stack with
    | nil =>
      rw [stack] at owner
      have ignored : s.onMarker g line text found = (s, none) := by
        simp [State.onMarker, role, Token.role, owner]
      rw [ignored]
      exact ⟨rfl, follows.ignored stack (by simp)⟩
    | cons top below =>
      rw [stack] at owner start
      obtain ⟨same, unmirrored, -⟩ := follows.plain top (by simp [stack])
      have closed : s.onMarker g line text found = (s.closeTop g line, none) := by
        simp [State.onMarker, role, Token.role, owner, State.accepts, unmirrored, follows.endSections]
      rw [closed, State.closeTop_cons stack]
      refine ⟨rfl, .single ⟨follows.mode, fun b member => ?_, fun depth => ?_⟩ ?_⟩
      · exact follows.plain b (by simp [stack, member])
      · simpa [Brackets.segmentStart?, stack] using follows.starts (depth + 1)
      · have known : g.rules[top.rule]? = some c := same ▸ bracketed.known
        simp [completed, start, closed_eq_span known]

theorem tokens_of_none (bracketed : Bracketed g t c) (nowhere : g.master.findAt text place = none) :
    t.tokens 0 (text.toList.drop place) = [] := by
  rw [Brackets.tokens_until (text.size - place), List.drop_drop, List.drop_eq_nil_of_le]
  · rfl
  · simp
    omega
  · intro further below
    rw [List.drop_drop]
    exact bracketed.absent text place nowhere _ (by omega) (by omega)

theorem tokens_of_some (bracketed : Bracketed g t c) {found : MarkerMatch}
    (atPlace : g.master.findAt text place = some found) :
    found.rule = 0 ∧ place ≤ found.start ∧ found.start < found.stop ∧
      ∃ token, found.role = token.role ∧
        t.tokens 0 (text.toList.drop place) = token :: t.tokens 0 (text.toList.drop found.stop) := by
  obtain ⟨rule, first, -, ⟨token, own, front, role, stop⟩, earlier⟩ :=
    bracketed.present text place found atPlace
  have occupied : own ≠ [] := bracketed.occupied token own (List.mem_of_find?_eq_some front)
  have length := List.length_pos_iff.mpr occupied
  refine ⟨rule, first, by omega, token, role, ?_⟩
  rw [Brackets.tokens_until (found.start - place), List.drop_drop, Nat.add_sub_cancel' first,
    Brackets.tokens_front front occupied, List.drop_drop, stop]
  intro further below
  rw [List.drop_drop]
  exact earlier _ (by omega) (by omega)

theorem step_eq (follows : Follows s history) {found : MarkerMatch}
    (atPlace : g.master.findAt text place = some found) (advances : found.start < found.stop)
    (noResume : (s.onMarker g line text found).2 = none) :
    step g line text s place = some ((s.onMarker g line text found).1, found.stop) := by
  simp [step, follows.mode, atPlace, noResume, nextPlace, advances]

theorem steps (bracketed : Bracketed g t c) (follows : Follows s history) (line : Nat) (text : Line)
    (count place : Nat) (enough : text.size < place + count) :
    Completes c ((t.tokens 0 (text.toList.drop place)).map fun token => (token, line)) history s
      (steps g line text count s place) := by
  induction count generalizing s place history with
  | zero =>
    have outside : text.toList.length ≤ place := Nat.le_of_lt enough
    rw [List.drop_eq_nil_of_le outside]
    exact .none follows
  | succ count ih =>
    unfold Fold.steps
    split
    · cases atPlace : g.master.findAt text place with
      | none =>
        have stuck : step g line text s place = none := by simp [step, follows.mode, atPlace]
        rw [stuck, bracketed.tokens_of_none atPlace]
        exact .none follows
      | some found =>
        obtain ⟨rule, first, advances, token, role, read⟩ := bracketed.tokens_of_some atPlace
        obtain ⟨noResume, completes⟩ := bracketed.onMarker follows line text rule role
        rw [step_eq follows atPlace advances noResume, read, List.map_cons]
        exact completes.trans (ih completes.follows _ (by omega))
    · rename_i outside
      rw [List.drop_eq_nil_of_le (by simp; omega)]
      exact .none follows

theorem endLine (bracketed : Bracketed g t c) (follows : Follows s history) : s.endLine g line = s := by
  obtain ⟨first, between, last, unnested, matchers⟩ := bracketed.matchers
  unfold State.endLine
  split
  · rfl
  · rename_i top below stack
    obtain ⟨same, -⟩ := follows.plain top (by simp [stack])
    simp [Grammar.isContinuation, same, bracketed.known, CompiledRule.isContinuation,
      CompiledRule.shape, matchers]

theorem readLines (bracketed : Bracketed g t c) (follows : Follows s history) (line : Nat)
    (document : Document) :
    Completes c (t.lineTokens line document) history s (readLines g line document s) := by
  induction document generalizing line s history with
  | nil => exact .none follows
  | cons text rest ih =>
    have read := bracketed.steps follows line text (text.size + 1) 0 (by omega)
    rw [List.drop_zero] at read
    rw [Fold.readLines, readLine, bracketed.endLine read.follows, Brackets.lineTokens]
    exact read.trans (ih read.follows (line + 1))

theorem run_eq (bracketed : Bracketed g t c) (document : Document) :
    run g document = t.ranges c.foldLastLine c.kind document := by
  have begun : Follows .start [] := ⟨rfl, by simp [State.start], fun depth => rfl⟩
  have read := bracketed.readLines begun 0 document
  have noSections : (Fold.readLines g 0 document .start).stack.filter (·.isSection) = [] := by
    refine List.filter_eq_nil_iff.mpr fun b member => ?_
    simp [(read.follows.plain b member).2.2]
  rw [run, State.finish, noSections, List.flatMap_nil, State.emit_ranges, List.reverse_nil,
    List.nil_append, read.ranges, List.reverse_append, List.reverse_reverse]
  rfl

end Bracketed

def Marks (a : Candidate) (marker : Token × List Char) : Prop :=
  a.rule = 0 ∧ a.role = marker.1.role ∧ a.pattern.Spells marker.2

section Marks

variable {candidates before after : List Candidate} {texts : List (Token × List Char)} {a : Candidate}

theorem find?_of_none (marks : List.Forall₂ Marks candidates texts)
    (nowhere : ∀ a ∈ candidates, a.pattern.node.matchAt text place = none) :
    texts.find? (fun (_, own) => own.isPrefixOf (text.toList.drop place)) = none := by
  induction marks with
  | nil => rfl
  | cons mark _ ih =>
    obtain ⟨here, others⟩ := List.forall_mem_cons.mp nowhere
    rw [mark.2.2.matchAt] at here
    rw [List.find?_cons_of_neg (by simpa using here)]
    exact ih others

theorem find?_of_first (marks : List.Forall₂ Marks (before ++ a :: after) texts)
    (others : ∀ b ∈ before, b.pattern.node.matchAt text place = none) {own : Pattern.Found}
    (matched : a.pattern.node.matchAt text place = some own) :
    ∃ token chars, texts.find? (fun (_, own) => own.isPrefixOf (text.toList.drop place)) =
        some (token, chars) ∧ a.rule = 0 ∧ a.role = token.role ∧ own.stop = place + chars.length := by
  induction before generalizing texts with
  | nil =>
    obtain ⟨⟨token, chars⟩, rest, ⟨rule, role, spells⟩, -, rfl⟩ := List.forall₂_cons_left_iff.mp marks
    rw [spells.matchAt] at matched
    split at matched
    · rename_i stands
      cases matched
      exact ⟨token, chars, List.find?_cons_of_pos (by simpa using stands), rule, role, rfl⟩
    · cases matched
  | cons b before ih =>
    obtain ⟨⟨token, chars⟩, rest, ⟨-, -, spells⟩, later, rfl⟩ := List.forall₂_cons_left_iff.mp marks
    obtain ⟨here, others⟩ := List.forall_mem_cons.mp others
    rw [spells.matchAt] at here
    rw [List.find?_cons_of_neg (by simpa using here)]
    exact ih later others

theorem spells_of_marks (marks : List.Forall₂ Marks candidates texts) :
    ∀ a ∈ candidates, ∃ chars, a.pattern.Spells chars := by
  induction marks with
  | nil => simp
  | cons mark _ ih => exact List.forall_mem_cons.mpr ⟨⟨_, mark.2.2⟩, ih⟩

theorem verboseFree_of_marks (marks : List.Forall₂ Marks candidates texts) :
    ∀ a ∈ candidates, a.pattern.verboseFree = true := by
  intro a member
  obtain ⟨chars, spells⟩ := spells_of_marks marks a member
  exact spells.free

end Marks

end Fold

namespace RuleSet

open Fold

variable {r : Rule} {opening closing : String} {middle : Option String}

theorem texts_occupied (literal : r.Literal opening middle closing) {token : Brackets.Token}
    {text : List Char} (member : (token, text) ∈ (Brackets.ofTexts opening middle closing).texts) :
    text ≠ [] := by
  obtain ⟨first, between, last⟩ := literal.occupied
  simp only [Brackets.texts, Brackets.ofTexts, List.mem_cons, List.mem_append, Option.mem_toList, Option.map_map,
    Option.map_eq_some_iff, Prod.mk.injEq, List.not_mem_nil, or_false] at member
  rcases member with ⟨-, rfl⟩ | ⟨own, isMiddle, -, rfl⟩ | ⟨-, rfl⟩
  · exact fun empty => first (String.toList_eq_nil_iff.mp empty)
  · exact fun empty => between (by rw [isMiddle, String.toList_eq_nil_iff.mp empty])
  · exact fun empty => last (String.toList_eq_nil_iff.mp empty)

theorem compile_bracketed (literal : r.Literal opening middle closing) (nested : r.nested = true)
    (accepted : (compile [r]).rejected = []) :
    ∃ c m, (compile [r]).master = some m ∧ c.foldLastLine = r.foldLastLine ∧ c.kind = r.kind ∧
      Bracketed ((compile [r]).grammar m) (Brackets.ofTexts opening middle closing) c := by
  obtain ⟨c, m, compiled, rules, combined⟩ := compile_single accepted
  obtain ⟨nests, lastLine, kind⟩ := Rule.compile_switches compiled
  obtain ⟨first, between, last, unnested, matchers, firstSpells, lastSpells, parts⟩ :=
    literal.compile_matchers compiled
  have marks : List.Forall₂ Marks (Candidate.ofRules (compile [r]).rules)
      (Brackets.ofTexts opening middle closing).texts := by
    have nestsToo : c.nested = true := nests.trans nested
    cases parts with
    | none =>
      simp [rules, Candidate.ofRules, CompiledRule.alternatives, matchers, nestsToo, Brackets.ofTexts,
        Brackets.texts, Marks, Brackets.Token.role, firstSpells, lastSpells]
    | some middleSpells =>
      simp [rules, Candidate.ofRules, CompiledRule.alternatives, matchers, nestsToo, Brackets.ofTexts,
        Brackets.texts, Marks, Brackets.Token.role, firstSpells, lastSpells, middleSpells]
  have finds := compile_reports combined (verboseFree_of_marks marks)
  refine ⟨c, m, combined, lastLine, kind, ?_, ⟨first, between, last, unnested, matchers⟩,
    nests.trans nested, fun token text member => ?_, fun text place nothing => ?_,
    fun text place found atPlace => ?_⟩
  · simp [grammar, rules]
  · exact texts_occupied literal member
  · rcases finds text place with ⟨-, nowhere⟩ | ⟨_, _, _, reported, -⟩
    · intro further above below
      refine find?_of_none marks fun a member => ?_
      exact Pattern.Node.search_eq_none.mp (nowhere a member) further above below
    · cases nothing.symm.trans reported
  · rcases finds text place with ⟨nothing, -⟩ | ⟨_, a, own, reported, reports⟩
    · cases nothing.symm.trans atPlace
    · cases reported.symm.trans atPlace
      obtain ⟨before, after, split, others⟩ := reports.first
      rw [candidates] at split
      obtain ⟨token, chars, front, ownRule, ownRole, ownStop⟩ :=
        find?_of_first (split ▸ marks) others reports.matched
      refine ⟨reports.rule.trans ownRule, reports.above, reports.below,
        ⟨token, chars, front, reports.role.trans ownRole, ?_⟩, ?_⟩
      · exact reports.stop.trans ownStop
      · intro further first last
        exact find?_of_none marks fun b member => reports.earlier b member further first last

/-- Folding with one rule that nests, and whose markers are texts, is bracket matching: the texts are read
from left to right, the opening one before the middle one before the closing one at each place, and
every segment that spans more than one line becomes a range when it is complete. -/
theorem fold_brackets (literal : r.Literal opening middle closing) (nested : r.nested = true)
    (accepted : (compile [r]).rejected = []) (document : Document) :
    (compile [r]).fold document =
      (Brackets.ofTexts opening middle closing).ranges r.foldLastLine r.kind document := by
  obtain ⟨c, m, combined, lastLine, kind, bracketed⟩ := compile_bracketed literal nested accepted
  rw [fold_eq_run combined, bracketed.run_eq, lastLine, kind]

def conditionRule : Rule := { Rule.ofTexts "if" "end" with middle := { text := some "else" } }

set_option maxRecDepth 100000 in
/-- A branch that has one line only leaves no range, and an end that is left over is ignored. -/
theorem fold_brackets_of_conditions :
    conditionRule.Literal "if" (some "else") "end" ∧ conditionRule.nested = true ∧
      (compile [conditionRule]).rejected = [] ∧
      (compile [conditionRule]).fold (.ofLines ["if a", "if b", "else", "x", "end end end"]) =
        [⟨2, 4, .region⟩, ⟨0, 4, .region⟩] := by
  have literal : conditionRule.Literal "if" (some "else") "end" :=
    ⟨rfl, rfl, rfl, by decide, by decide, by decide, by decide⟩
  have accepted : (compile [conditionRule]).rejected = [] := by decide +kernel
  refine ⟨literal, rfl, accepted, ?_⟩
  rw [fold_brackets literal rfl accepted]
  decide

end RuleSet

end Foldmark
