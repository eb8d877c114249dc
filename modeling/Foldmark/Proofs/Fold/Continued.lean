import Foldmark.Proofs.Fold.Brackets
import Foldmark.Proofs.Fold.Progress

/-! Rules whose blocks go on while lines end with a suffix. Such a rule opens a block on a line that ends with
the suffix, and asks one pattern whether it does. What keeps the block open are the matches of the
suffix that the search for all markers reports, and a match of the opening marker hides those that it
covers. Folding follows the chains of lines as long as the search gets to see the suffix. -/
namespace Foldmark

/-- Which lines begin a chain, and which go on. -/
structure Chains where
  begins : Line → Bool
  continues : Line → Bool

namespace Chains

/-- The first and the last line of every chain in some lines, of which the first has the number `line`. A
chain begins on a line that begins one and goes on, and ends on the first later line that does not
go on; the next one is looked for behind that line. A chain that does not end is dropped. -/
def read (t : Chains) : Option Nat → Nat → Document → List (Nat × Nat)
  | _, _, [] => []
  | none, line, text :: rest =>
    t.read (if t.begins text && t.continues text then some line else none) (line + 1) rest
  | some start, line, text :: rest =>
    if t.continues text then t.read (some start) (line + 1) rest
    else (start, line) :: t.read none (line + 1) rest

def range (lastLine : Bool) (kind : Kind) : Nat × Nat → List Range
  | (start, stop) => Brackets.span kind start (if lastLine then stop else stop - 1)

/-- The ranges of the chains in a document. -/
def ranges (t : Chains) (lastLine : Bool) (kind : Kind) (document : Document) : List Range :=
  (t.read none 0 document).flatMap (range lastLine kind)

end Chains

namespace Pattern

/-- The first match of an opening marker or of a suffix from a place on. The opening marker is tried first. -/
def nextMark (opening suffix : Pattern) (text : Line) (place : Nat) : Option (Role × Found) :=
  match opening.find? text place, suffix.find? text place with
  | none, other => other.map fun found => (.continuation, found)
  | some own, none => some (.opening, own)
  | some own, some other =>
    if own.start ≤ other.start then some (.opening, own) else some (.continuation, other)

/-- What the matches mean that are found one behind the other from a place on, up to `count` of them. -/
def marks (opening suffix : Pattern) (text : Line) : Nat → Nat → List Role
  | 0, _ => []
  | count + 1, place =>
    match nextMark opening suffix text place with
    | none => []
    | some (role, found) => role :: marks opening suffix text count (Fold.nextPlace found.start found.stop)

section Marks

variable {opening suffix : Pattern} {text : Line} {place count : Nat}

theorem nextMark_cases (opening suffix : Pattern) (text : Line) (place : Nat) :
    (nextMark opening suffix text place = none ∧ opening.find? text place = none ∧
      suffix.find? text place = none) ∨
    (∃ own, nextMark opening suffix text place = some (.opening, own) ∧
      opening.find? text place = some own ∧
      ∀ other, suffix.find? text place = some other → own.start ≤ other.start) ∨
    ∃ other, nextMark opening suffix text place = some (.continuation, other) ∧
      suffix.find? text place = some other ∧
      ∀ own, opening.find? text place = some own → other.start < own.start := by
  unfold nextMark
  cases first : opening.find? text place with
  | none =>
    cases second : suffix.find? text place with
    | none => exact .inl ⟨rfl, rfl, rfl⟩
    | some other => exact .inr (.inr ⟨other, rfl, rfl, by simp⟩)
  | some own =>
    cases second : suffix.find? text place with
    | none => exact .inr (.inl ⟨own, rfl, rfl, by simp⟩)
    | some other =>
      by_cases ahead : own.start ≤ other.start
      · exact .inr (.inl ⟨own, if_pos ahead, rfl, by simpa using ahead⟩)
      · exact .inr (.inr ⟨other, if_neg ahead, rfl, by simpa using ahead⟩)

theorem matches_of_find? {p : Pattern} {found : Found} (searched : p.find? text place = some found) :
    p.matches? text = true := by
  obtain ⟨-, inside, matched, -⟩ := Node.search_eq_some.mp searched
  exact matches?_of_matchAt inside matched

theorem matches_of_mem_marks {role : Role} (member : role ∈ marks opening suffix text count place) :
    role = .opening ∧ opening.matches? text = true ∨
      role = .continuation ∧ suffix.matches? text = true := by
  induction count generalizing place with
  | zero => cases member
  | succ count ih =>
    unfold marks at member
    rcases nextMark_cases opening suffix text place with ⟨next, -⟩ | ⟨own, next, searched, -⟩ |
      ⟨other, next, searched, -⟩ <;> rw [next] at member
    · cases member
    · rcases List.mem_cons.mp member with rfl | later
      · exact .inl ⟨rfl, matches_of_find? searched⟩
      · exact ih later
    · rcases List.mem_cons.mp member with rfl | later
      · exact .inr ⟨rfl, matches_of_find? searched⟩
      · exact ih later

theorem suffix_mem_marks (absent : opening.matches? text = false) (ends : suffix.matches? text = true) :
    .continuation ∈ marks opening suffix text (count + 1) 0 := by
  unfold marks
  rcases nextMark_cases opening suffix text 0 with ⟨-, -, nothing⟩ | ⟨own, -, searched, -⟩ |
    ⟨other, next, -⟩
  · rw [matches?, Option.isSome_iff_exists] at ends
    obtain ⟨other, searched⟩ := ends
    cases nothing.symm.trans searched
  · rw [matches_of_find? searched] at absent
    cases absent
  · rw [next]
    exact List.mem_cons_self

/-- Every match of the opening marker ends in front of every match of the suffix. -/
def Ahead (opening suffix : Pattern) (text : Line) : Prop :=
  ∀ own other, own.start ≤ text.size → opening.node.matchAt text own.start = some own →
    other.start ≤ text.size → suffix.node.matchAt text other.start = some other →
    Fold.nextPlace own.start own.stop ≤ other.start

theorem Ahead.suffix_mem_marks (ahead : Ahead opening suffix text) {other : Found}
    (ends : suffix.find? text place = some other) (enough : text.size < place + count) :
    .continuation ∈ marks opening suffix text count place := by
  obtain ⟨above, below, matched, earlier⟩ := Node.search_eq_some.mp ends
  induction count generalizing place with
  | zero => omega
  | succ count ih =>
    unfold marks
    rcases nextMark_cases opening suffix text place with ⟨-, -, nothing⟩ | ⟨own, next, searched, -⟩ |
      ⟨_, next, -⟩
    · cases nothing.symm.trans ends
    · obtain ⟨first, inside, begins, -⟩ := Node.search_eq_some.mp searched
      have behind := ahead own other inside begins below matched
      have forward := (Fold.nextPlace_bounds (Node.matchAt_within inside begins).ordered).1
      have still : ∀ further, Fold.nextPlace own.start own.stop ≤ further → further < other.start →
          suffix.node.matchAt text further = none :=
        fun further lower upper => earlier further (by omega) upper
      rw [next]
      exact List.mem_cons_of_mem _ (ih (Node.search_eq_some.mpr ⟨behind, below, matched, still⟩)
        (by omega) behind still)
    · rw [next]
      exact List.mem_cons_self

theorem Ahead.both (ahead : Ahead opening suffix text) (begins : opening.matches? text = true)
    (ends : suffix.matches? text = true) :
    [.opening, .continuation].Sublist (marks opening suffix text (text.size + 1) 0) := by
  rw [matches?, Option.isSome_iff_exists] at begins ends
  obtain ⟨own, first⟩ := begins
  obtain ⟨other, second⟩ := ends
  obtain ⟨-, inside, matched, -⟩ := Node.search_eq_some.mp first
  obtain ⟨-, below, matched', earlier⟩ := Node.search_eq_some.mp second
  have behind := ahead own other inside matched below matched'
  have forward := (Fold.nextPlace_bounds (Node.matchAt_within inside matched).ordered).1
  unfold marks
  rcases nextMark_cases opening suffix text 0 with ⟨-, nothing, -⟩ | ⟨found, next, searched, -⟩ |
    ⟨found, next, searched, sooner⟩
  · cases nothing.symm.trans first
  · cases searched.symm.trans first
    have remains : suffix.find? text (Fold.nextPlace own.start own.stop) = some other :=
      Node.search_eq_some.mpr ⟨behind, below, matched', fun further _ upper =>
        earlier further (Nat.zero_le _) upper⟩
    rw [next]
    exact (List.singleton_sublist.mpr (ahead.suffix_mem_marks remains (by omega))).cons_cons _
  · cases searched.symm.trans second
    have earlier := sooner own first
    omega

end Marks

end Pattern

namespace CompiledRule

/-- Whether the opening marker of a continuation rule matches in a line. -/
def begins (r : CompiledRule) (line : Line) : Bool :=
  match r.matchers with
  | .continuation opening _ => opening.matches? line
  | _ => false

/-- What the markers of a continuation rule that are found in a line mean. -/
def marks (r : CompiledRule) (line : Line) : List Role :=
  match r.matchers with
  | .continuation opening suffix => Pattern.marks opening suffix line (line.size + 1) 0
  | _ => []

/-- On a line that can begin a chain, the opening marker is found and the suffix behind it: no match of the
opening marker covers the suffix, and none of the suffix covers the opening marker. -/
def Seen (r : CompiledRule) (line : Line) : Prop :=
  r.begins line = true → r.continues line = true → [.opening, .continuation].Sublist (r.marks line)

instance (r : CompiledRule) (line : Line) : Decidable (r.Seen line) :=
  inferInstanceAs (Decidable (r.begins line = true → r.continues line = true →
    [.opening, .continuation].Sublist (r.marks line)))

theorem seen_of_ahead {r : CompiledRule} {opening suffix : Pattern} {line : Line}
    (matchers : r.matchers = .continuation opening suffix) (ahead : Pattern.Ahead opening suffix line) :
    r.Seen line := by
  intro begins ends
  simp only [CompiledRule.begins, matchers] at begins
  simp only [CompiledRule.continues, matchers] at ends
  simp only [CompiledRule.marks, matchers]
  exact ahead.both begins ends

end CompiledRule

namespace Fold

variable {g : Grammar} {c : CompiledRule} {opening suffix : Pattern} {line place count : Nat} {text : Line}
  {ranges : List Range}

/-- A block of the only rule, with its first line and the last one that was seen to continue it. -/
def chainState (block? : Option (Nat × Option Nat)) (ranges : List Range) : State :=
  ⟨block?.toList.map fun (start, continued) => { rule := 0, start, continued }, ranges, .normal⟩

/-- What becomes of the block on a line when a marker is found. -/
def heed (line : Nat) (continues : Bool) : Option (Nat × Option Nat) → Role → Option (Nat × Option Nat)
  | none, .opening => if continues then some (line, none) else none
  | some (start, _), .continuation => some (start, some line)
  | block?, _ => block?

section Heed

variable {roles : List Role} {continues : Bool}

theorem foldl_heed_some (start : Nat) (last : Option Nat) :
    roles.foldl (heed line continues) (some (start, last)) =
      some (start, if .continuation ∈ roles then some line else last) := by
  induction roles generalizing last with
  | nil => rfl
  | cons role rest ih => cases role <;> simp [heed, ih]

theorem foldl_heed_none (closed : continues = true → .opening ∉ roles) :
    roles.foldl (heed line continues) none = none := by
  induction roles with
  | nil => rfl
  | cons role rest ih =>
    have stays : heed line continues none role = none := by
      cases role <;> cases continues <;> simp_all [heed]
    rw [List.foldl_cons, stays]
    exact ih fun goesOn member => closed goesOn (List.mem_cons_of_mem _ member)

theorem foldl_heed_opens (both : [Role.opening, .continuation].Sublist roles) :
    roles.foldl (heed line true) none = some (line, some line) := by
  induction roles with
  | nil => cases both
  | cons role rest ih =>
    cases role with
    | opening =>
      have behind : .continuation ∈ rest := by
        cases both with
        | cons _ inner => exact inner.subset (by simp)
        | cons_cons _ inner => exact inner.subset (by simp)
      rw [List.foldl_cons]
      exact (foldl_heed_some line none).trans (by simp [behind])
    | _ =>
      cases both with
      | cons _ inner => exact ih inner

end Heed

/-- A grammar with one rule, whose blocks go on while lines end with a suffix. -/
structure Continued (g : Grammar) (c : CompiledRule) (opening suffix : Pattern) : Prop where
  known : g.rules[0]? = some c
  matchers : c.matchers = .continuation opening suffix
  /-- The marks of the rule are what is found. -/
  finds : ∀ text place, match Pattern.nextMark opening suffix text place with
    | none => g.master.findAt text place = none
    | some (role, own) => ∃ found, g.master.findAt text place = some found ∧ found.rule = 0 ∧
        found.role = role ∧ found.start = own.start ∧ found.stop = own.stop

namespace Continued

variable {block? : Option (Nat × Option Nat)}

theorem isContinuation (continued : Continued g c opening suffix) : g.isContinuation 0 = true := by
  simp [Grammar.isContinuation, continued.known, CompiledRule.isContinuation, CompiledRule.shape,
    continued.matchers]

theorem onMarker (continued : Continued g c opening suffix) {found : MarkerMatch} (rule : found.rule = 0)
    (role : found.role = .opening ∨ found.role = .continuation) :
    (chainState block? ranges).onMarker g line text found =
      (chainState (heed line (c.continues text) block? found.role) ranges, none) := by
  unfold State.onMarker
  rcases role with role | role
  · cases block? with
    | none =>
      simp only [role, chainState, State.mayOpen, State.openBlock, rule, continued.known, continued.matchers,
        heed, Option.toList_none, List.map_nil]
      cases c.continues text <;> rfl
    | some b =>
      simp [role, chainState, State.openBlock, rule, continued.known, continued.matchers, heed]
  · cases block? with
    | none => simp [role, chainState, heed]
    | some b => simp [role, rule, chainState, heed]

theorem step (continued : Continued g c opening suffix) (block? : Option (Nat × Option Nat))
    (ranges : List Range) (line : Nat) (text : Line) (place : Nat) :
    Fold.step g line text (chainState block? ranges) place =
      (Pattern.nextMark opening suffix text place).map fun (role, found) =>
        (chainState (heed line (c.continues text) block? role) ranges,
          nextPlace found.start found.stop) := by
  have searched := continued.finds text place
  have mode : (chainState block? ranges).mode = .normal := rfl
  cases next : Pattern.nextMark opening suffix text place with
  | none =>
    rw [next] at searched
    simp [Fold.step, mode, searched]
  | some mark =>
    obtain ⟨role, own⟩ := mark
    rw [next] at searched
    obtain ⟨found, atPlace, rule, rfl, start, stop⟩ := searched
    have roles : found.role = .opening ∨ found.role = .continuation := by
      rcases Pattern.nextMark_cases opening suffix text place with ⟨other, -⟩ | ⟨_, other, -⟩ | ⟨_, other, -⟩
      · cases next.symm.trans other
      · exact .inl (congrArg Prod.fst (Option.some.inj (next.symm.trans other)))
      · exact .inr (congrArg Prod.fst (Option.some.inj (next.symm.trans other)))
    simp [Fold.step, mode, atPlace, continued.onMarker rule roles, start, stop]

theorem steps (continued : Continued g c opening suffix) (block? : Option (Nat × Option Nat))
    (ranges : List Range) (line : Nat) (text : Line) (count place : Nat) :
    Fold.steps g line text count (chainState block? ranges) place =
      chainState ((Pattern.marks opening suffix text count place).foldl
        (heed line (c.continues text)) block?) ranges := by
  induction count generalizing block? place with
  | zero => rfl
  | succ count ih =>
    unfold Fold.steps Pattern.marks
    split
    · rw [continued.step]
      cases Pattern.nextMark opening suffix text place with
      | none => rfl
      | some mark => exact ih _ _
    · rename_i outside
      have nothing (p : Pattern) : p.find? text place = none :=
        Pattern.Node.search_eq_none.mpr fun further above below => by omega
      simp [Pattern.nextMark, nothing]

theorem endLine (continued : Continued g c opening suffix) (start last : Nat) (ranges : List Range)
    (line : Nat) : (chainState (some (start, some last)) ranges).endLine g line =
      if last = line then chainState (some (start, some last)) ranges
      else chainState none
        ((Chains.range c.foldLastLine c.kind (start, line)).reverse ++ ranges) := by
  have stack : (chainState (some (start, some last)) ranges).stack =
      [{ rule := 0, start, continued := some last }] := rfl
  simp only [State.endLine, stack, continued.isContinuation, Bool.not_true, Bool.false_eq_true, if_false]
  split
  · rfl
  · rw [State.closeTop_cons stack, closed_eq_span continued.known]
    rfl

theorem begins_eq (continued : Continued g c opening suffix) (text : Line) :
    c.begins text = opening.matches? text := by
  simp [CompiledRule.begins, continued.matchers]

theorem continues_eq (continued : Continued g c opening suffix) (text : Line) :
    c.continues text = suffix.matches? text := by
  simp [CompiledRule.continues, continued.matchers]

theorem marks_eq (continued : Continued g c opening suffix) (text : Line) :
    c.marks text = Pattern.marks opening suffix text (text.size + 1) 0 := by
  simp [CompiledRule.marks, continued.matchers]

theorem continuation_mem_marks (continued : Continued g c opening suffix) (seen : c.Seen text) :
    .continuation ∈ c.marks text ↔ c.continues text = true := by
  constructor
  · intro member
    rw [continued.marks_eq] at member
    rcases Pattern.matches_of_mem_marks member with ⟨other, -⟩ | ⟨-, ends⟩
    · cases other
    · exact (continued.continues_eq text).trans ends
  · intro ends
    cases begins : c.begins text with
    | true => exact (seen begins ends).subset (by simp)
    | false =>
      rw [continued.marks_eq]
      exact Pattern.suffix_mem_marks ((continued.begins_eq text).symm.trans begins)
        ((continued.continues_eq text).symm.trans ends)

/-- Outside of a chain, a line begins one if the opening marker matches in it and it ends with the suffix. -/
theorem readLine_outside (continued : Continued g c opening suffix) (seen : c.Seen text)
    (ranges : List Range) (line : Nat) :
    readLine g line text (chainState none ranges) =
      chainState (if c.begins text && c.continues text then some (line, some line) else none) ranges := by
  rw [readLine, continued.steps, ← continued.marks_eq]
  by_cases both : c.begins text = true ∧ c.continues text = true
  · obtain ⟨begins, ends⟩ := both
    rw [ends, foldl_heed_opens (seen begins ends), continued.endLine, begins]
    simp
  · have stays : (c.marks text).foldl (heed line (c.continues text)) none = none := by
      refine foldl_heed_none fun ends member => both ⟨?_, ends⟩
      rw [continued.marks_eq] at member
      rcases Pattern.matches_of_mem_marks member with ⟨-, begins⟩ | ⟨other, -⟩
      · exact (continued.begins_eq text).trans begins
      · cases other
    rw [stays, if_neg (by simpa using both)]
    rfl

theorem readLine_inside (continued : Continued g c opening suffix) (seen : c.Seen text)
    (start last : Nat) (ranges : List Range) (later : last < line) :
    readLine g line text (chainState (some (start, some last)) ranges) =
      if c.continues text then chainState (some (start, some line)) ranges
      else chainState none
        ((Chains.range c.foldLastLine c.kind (start, line)).reverse ++ ranges) := by
  rw [readLine, continued.steps, ← continued.marks_eq, foldl_heed_some]
  simp only [continued.continuation_mem_marks seen]
  cases c.continues text with
  | true =>
    simp only [if_true]
    rw [continued.endLine, if_pos rfl]
  | false =>
    simp only [Bool.false_eq_true, if_false]
    rw [continued.endLine, if_neg (Nat.ne_of_lt later)]

theorem readLines (continued : Continued g c opening suffix) (document : Document)
    (seen : ∀ text ∈ document, c.Seen text) (line last : Nat) (start? : Option Nat)
    (later : ∀ start ∈ start?, last < line) (ranges : List Range) :
    ∃ block?, Fold.readLines g line document
        (chainState (start?.map fun start => (start, some last)) ranges) =
      chainState block? (((Chains.read ⟨c.begins, c.continues⟩ start? line document).flatMap
        (Chains.range c.foldLastLine c.kind)).reverse ++ ranges) := by
  induction document generalizing line last start? ranges with
  | nil => exact ⟨_, rfl⟩
  | cons text rest ih =>
    obtain ⟨here, further⟩ := List.forall_mem_cons.mp seen
    cases start? with
    | none =>
      have begun : (if c.begins text && c.continues text then some (line, some line) else none) =
          (if c.begins text && c.continues text then some line else none).map
            fun start => (start, some line) := by
        split <;> rfl
      rw [Option.map_none, Fold.readLines, continued.readLine_outside here, begun]
      exact ih further (line + 1) line _ (fun _ _ => Nat.lt_succ_self line) ranges
    | some start =>
      rw [Option.map_some, Fold.readLines,
        continued.readLine_inside here start last ranges (later start rfl)]
      cases ends : c.continues text with
      | true =>
        obtain ⟨block?, read⟩ :=
          ih further (line + 1) line (some start) (fun _ _ => Nat.lt_succ_self line) ranges
        exact ⟨block?, read.trans (by simp [Chains.read, ends])⟩
      | false =>
        obtain ⟨block?, read⟩ := ih further (line + 1) line none (by simp)
          ((Chains.range c.foldLastLine c.kind (start, line)).reverse ++ ranges)
        exact ⟨block?, read.trans (by simp [Chains.read, ends])⟩

theorem run_eq (continued : Continued g c opening suffix) (document : Document)
    (seen : ∀ text ∈ document, c.Seen text) :
    run g document = Chains.ranges ⟨c.begins, c.continues⟩ c.foldLastLine c.kind document := by
  have begun : chainState (none.map fun start => (start, some 0)) [] = .start := rfl
  obtain ⟨block?, read⟩ := continued.readLines document seen 0 0 none (by simp) []
  rw [begun, List.append_nil] at read
  have noSections (ranges : List Range) :
      (chainState block? ranges).stack.filter (fun b => b.isSection) = [] := by
    cases block? <;> rfl
  rw [run, read, State.finish, noSections]
  simp [chainState, Chains.ranges]

end Continued

end Fold

namespace Rule

theorem compile_continuation {r : Rule} {c : CompiledRule} (declared : r.shape? = some .continuation)
    (compiled : r.compile = .ok c) : ∃ opening suffix, c.matchers = .continuation opening suffix := by
  have matchers := (compile_cases compiled).1
  unfold compileMatchers at matchers
  rw [declared] at matchers
  split at matchers
  · cases ‹some Shape.continuation = some Shape.docstring›
  · cases ‹some Shape.continuation = some Shape.paired›
  · split at matchers
    · obtain ⟨opening, suffix, same, -⟩ := compileContinuation_cases matchers
      exact ⟨opening, suffix, same⟩
    · cases matchers
  · cases ‹some Shape.continuation = some Shape.separator›
  · cases matchers

end Rule

namespace RuleSet

open Fold

theorem compile_continued {r : Rule} {c : CompiledRule} {m : Master} {opening suffix : Pattern}
    (rules : (compile [r]).rules = [c]) (combined : (compile [r]).master = some m)
    (matchers : c.matchers = .continuation opening suffix)
    (free : ∀ a ∈ (compile [r]).candidates, a.pattern.verboseFree = true) :
    Continued ((compile [r]).grammar m) c opening suffix := by
  have markers : (compile [r]).candidates = [⟨0, .opening, opening⟩, ⟨0, .continuation, suffix⟩] := by
    simp [candidates, rules, Candidate.ofRules, CompiledRule.alternatives, matchers]
  refine ⟨by simp [grammar, rules], matchers, fun text place => ?_⟩
  have next := Pattern.nextMark_cases opening suffix text place
  rcases compile_reports combined free text place with ⟨nothing, nowhere⟩ |
    ⟨found, a, own, reported, reports⟩
  · rw [markers, List.forall_mem_cons, List.forall_mem_singleton] at nowhere
    obtain ⟨first, second⟩ := nowhere
    rcases next with ⟨next, -⟩ | ⟨_, -, searched, -⟩ | ⟨_, -, searched, -⟩
    · rw [next]
      exact nothing
    · cases first.symm.trans searched
    · cases second.symm.trans searched
  · have isFirst : ⟨0, .opening, opening⟩ ∈ (compile [r]).candidates := by simp [markers]
    have isSecond : ⟨0, .continuation, suffix⟩ ∈ (compile [r]).candidates := by simp [markers]
    have either : a = ⟨0, .opening, opening⟩ ∨ a = ⟨0, .continuation, suffix⟩ := by
      simpa [markers] using reports.mem
    have start := reports.start
    rcases next with ⟨-, first, second⟩ | ⟨other, next, searched, ahead⟩ |
      ⟨other, next, searched, ahead⟩ <;> rcases either with rfl | rfl
    · cases first.symm.trans reports.searched
    · cases second.symm.trans reports.searched
    · rw [next]
      cases searched.symm.trans reports.searched
      exact ⟨found, reported, reports.rule, reports.role, reports.start.symm, reports.stop⟩
    · -- The opening marker is tried first, so it does not match where the suffix is reported.
      obtain ⟨before, after, split, others⟩ := reports.first
      rw [markers] at split
      have tried : ⟨0, .opening, opening⟩ ∈ before := by
        cases before with
        | nil => cases split
        | cons b rest => exact (List.cons.inj split).1 ▸ List.mem_cons_self
      have sooner := reports.least isFirst searched
      have later := ahead own reports.searched
      have elsewhere := Pattern.Node.start_ne_of_search searched (others _ tried)
      omega
    · have sooner := reports.least isSecond searched
      have later := ahead own reports.searched
      omega
    · rw [next]
      cases searched.symm.trans reports.searched
      exact ⟨found, reported, reports.rule, reports.role, reports.start.symm, reports.stop⟩

/-- Folding with one rule that has a suffix follows the chains of lines that end with the suffix: a chain begins on a
line in which the opening marker matches, too, and its range ends on the first line that does not end with
the suffix, or before it. It needs the search to see the suffix behind the opening marker where a line
has both. -/
theorem fold_continued {r : Rule} (declared : r.shape? = some .continuation)
    (accepted : (compile [r]).rejected = [])
    (free : ∀ a ∈ (compile [r]).candidates, a.pattern.verboseFree = true) :
    ∃ c, r.compile = .ok c ∧ c.isContinuation = true ∧
      ∀ document : Document, (∀ text ∈ document, c.Seen text) →
        (compile [r]).fold document =
          Chains.ranges ⟨c.begins, c.continues⟩ r.foldLastLine r.kind document := by
  obtain ⟨c, m, compiled, rules, combined⟩ := compile_single accepted
  obtain ⟨opening, suffix, matchers⟩ := Rule.compile_continuation declared compiled
  obtain ⟨-, lastLine, kind⟩ := Rule.compile_switches compiled
  refine ⟨c, compiled, ?_, fun document seen => ?_⟩
  · simp [CompiledRule.isContinuation, CompiledRule.shape, matchers]
  · rw [fold_eq_run combined, ← lastLine, ← kind]
    exact (compile_continued rules combined matchers free).run_eq document seen

/-- Definitions that go on while lines end with a backslash. -/
def definitionRule : Rule := { opening := { text := some "#d" }, continuation := { text := some "\\" } }

set_option maxRecDepth 100000 in
/-- A definition ends on its first line without a backslash, and one that does not end is dropped. -/
theorem fold_continued_definitions :
    definitionRule.shape? = some .continuation ∧ (compile [definitionRule]).rejected = [] ∧
    (∀ a ∈ (compile [definitionRule]).candidates, a.pattern.verboseFree = true) ∧
    (∀ c ∈ definitionRule.compile.toOption,
      ∀ text ∈ Document.ofLines ["#d a", "#d b \\", "#d \\", "c", "#d \\"], c.Seen text) ∧
    (compile [definitionRule]).fold (.ofLines ["#d a", "#d b \\", "#d \\", "c", "#d \\"]) =
      [⟨1, 3, .region⟩] := by
  have accepted : (compile [definitionRule]).rejected = [] := by decide +kernel
  have free : ∀ a ∈ (compile [definitionRule]).candidates, a.pattern.verboseFree = true := by
    decide +kernel
  have seen : ∀ c ∈ definitionRule.compile.toOption,
      ∀ text ∈ Document.ofLines ["#d a", "#d b \\", "#d \\", "c", "#d \\"], c.Seen text := by
    decide +kernel
  have chains : ∀ c ∈ definitionRule.compile.toOption, Chains.ranges ⟨c.begins, c.continues⟩ true .region
      (.ofLines ["#d a", "#d b \\", "#d \\", "c", "#d \\"]) = [⟨1, 3, .region⟩] := by decide +kernel
  refine ⟨rfl, accepted, free, seen, ?_⟩
  obtain ⟨c, compiled, -, folds⟩ := fold_continued rfl accepted free
  have member : c ∈ definitionRule.compile.toOption := by
    rw [compiled]
    rfl
  exact (folds _ (seen c member)).trans (chains c member)

/-- Definitions of which one kind is marked up to the end of its line. -/
def coveringRule : Rule :=
  { opening := { regex := some "(?s)#e|#d.*" }, continuation := { text := some "\\" } }

set_option maxRecDepth 100000 in
/-- A match of the opening marker that covers the suffix hides it, and the chain ends on a line that goes on. -/
theorem fold_continued_covered :
    coveringRule.shape? = some .continuation ∧ (compile [coveringRule]).rejected = [] ∧
    ∃ c ∈ coveringRule.compile.toOption,
      (compile [coveringRule]).fold (.ofLines ["#e \\", "#d \\", "x"]) ≠
        Chains.ranges ⟨c.begins, c.continues⟩ true .region (.ofLines ["#e \\", "#d \\", "x"]) := by
  decide +kernel

end RuleSet

end Foldmark
