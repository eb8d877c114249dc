import Mathlib.Data.List.Induction
import Mathlib.Data.List.Perm.Basic
import Foldmark.Proofs.Fold.Transport
import Foldmark.Proofs.Rule.Reference

/-! Rules in another order, and among others. Only where markers of different rules match at the same place does
the order decide between them, so without such ties a scan finds the same markers whatever the order is,
and rules whose markers match nowhere change nothing. -/
namespace Foldmark

/-- The positions that the elements of a list have in a reordering of it with further elements. A position
outside of the list stays outside. -/
theorem exists_positions {α : Type} [DecidableEq α] {list more reordered : List α}
    (same : reordered.Perm (list ++ more)) : ∃ position : Nat → Nat, Function.Injective position ∧
      (∀ i, reordered[position i]? = list[i]?) ∧
      ∀ j x, reordered[j]? = some x → (∃ i, position i = j) ∨ x ∈ more := by
  have bound {i : Nat} (inside : i < list.length) : i < (list ++ more).length := by
    rw [List.length_append]
    omega
  let position (i : Nat) : Nat :=
    if inside : i < list.length then same.symm.idxBij ⟨i, bound inside⟩ else reordered.length + i
  have inner {i : Nat} (inside : i < list.length) :
      position i = same.symm.idxBij ⟨i, bound inside⟩ := dif_pos inside
  have outer {i : Nat} (outside : ¬i < list.length) : position i = reordered.length + i := dif_neg outside
  refine ⟨position, fun i j equal => ?_, fun i => ?_, fun j x atPlace => ?_⟩
  · by_cases first : i < list.length <;> by_cases second : j < list.length
    · rw [inner first, inner second] at equal
      simpa using same.symm.idxBij_injective (Fin.ext equal)
    · rw [inner first, outer second] at equal
      omega
    · rw [outer first, inner second] at equal
      omega
    · rw [outer first, outer second] at equal
      omega
  · by_cases inside : i < list.length
    · have moved := same.symm.getElem_idxBij_eq_getElem ⟨i, bound inside⟩
      rw [inner inside, List.getElem?_eq_getElem (Fin.isLt _), moved, List.getElem?_eq_getElem inside]
      exact congrArg some (List.getElem_append_left inside)
    · rw [outer inside, List.getElem?_eq_none (by omega), List.getElem?_eq_none (by omega)]
  · obtain ⟨below, rfl⟩ := List.getElem?_eq_some_iff.mp atPlace
    obtain ⟨⟨i, whole⟩, moved⟩ := same.symm.idxBij_surjective ⟨j, below⟩
    by_cases inside : i < list.length
    · exact .inl ⟨i, by rw [inner inside, moved]⟩
    · have back := same.symm.getElem_idxBij_eq_getElem ⟨i, whole⟩
      simp only [moved] at back
      rw [back, List.getElem_append_right (by omega)]
      exact .inr (List.getElem_mem _)

namespace Candidate

theorem ofRules_concat (rules : List CompiledRule) (r : CompiledRule) :
    ofRules (rules ++ [r]) =
      ofRules rules ++ r.alternatives.map fun (role, p) => ⟨rules.length, role, p⟩ := by
  simp [ofRules, List.mapIdx_append]

theorem filter_ofRules (rules : List CompiledRule) (rule : Nat) :
    (ofRules rules).filter (fun a => a.rule = rule) =
      (rules[rule]?.toList.flatMap CompiledRule.alternatives).map fun (role, p) => ⟨rule, role, p⟩ := by
  induction rules using List.reverseRecOn with
  | nil => rfl
  | append_singleton rules r ih =>
    rw [ofRules_concat, List.filter_append, ih]
    by_cases last : rule = rules.length
    · subst last
      simp [List.filter_map, Function.comp_def]
    · by_cases inside : rule < rules.length
      · simp [List.filter_map, Function.comp_def, List.getElem?_append_left inside, Ne.symm last]
      · have outside : (rules ++ [r])[rule]? = none := by
          rw [List.getElem?_eq_none]
          simp only [List.length_append, List.length_singleton]
          omega
        have absent : rules[rule]? = none := List.getElem?_eq_none (Nat.le_of_not_lt inside)
        simp [List.filter_map, Function.comp_def, outside, absent, Ne.symm last]

theorem first_of_rule {rules : List CompiledRule} {before after : List Candidate} {a : Candidate}
    (split : ofRules rules = before ++ a :: after) {r : CompiledRule} (known : rules[a.rule]? = some r)
    {text : Line} {place : Nat} (others : ∀ b ∈ before, b.pattern.node.matchAt text place = none)
    {own : Pattern.Found} (matched : a.pattern.node.matchAt text place = some own) :
    r.alternatives.find? (fun x => (x.2.node.matchAt text place).isSome) = some (a.role, a.pattern) := by
  have own := filter_ofRules rules a.rule
  rw [split, known, List.filter_append, List.filter_cons_of_pos (by simp)] at own
  have found := congrArg (List.find? fun b => (b.pattern.node.matchAt text place).isSome) own
  have nowhere : (before.filter fun b => b.rule = a.rule).find?
      (fun b => (b.pattern.node.matchAt text place).isSome) = none := by
    refine List.find?_eq_none.mpr fun b member => ?_
    simp [others b (List.mem_of_mem_filter member)]
  rw [List.find?_append, nowhere, Option.none_or, List.find?_cons_of_pos (by simp [matched]),
    List.find?_map] at found
  obtain ⟨⟨role, p⟩, first, same⟩ := Option.map_eq_some_iff.mp found.symm
  rw [← same]
  simpa [Function.comp_def] using first

def moved (position : Nat → Nat) (a : Candidate) : Candidate := { a with rule := position a.rule }

end Candidate

/-- No marker of a rule that can be found anywhere matches in a line. -/
def Rule.Silent (r : Rule) (text : Line) : Prop :=
  ∀ c ∈ r.compile.toOption, ∀ a ∈ c.alternatives, a.2.matches? text = false

instance (r : Rule) (text : Line) : Decidable (r.Silent text) :=
  inferInstanceAs (Decidable (∀ c ∈ r.compile.toOption, ∀ a ∈ c.alternatives, a.2.matches? text = false))

theorem Fold.run_eq_nil {g : Grammar} {document : Document}
    (nowhere : ∀ text ∈ document, ∀ place, g.master.findAt text place = none) : run g document = [] := by
  have read (line : Nat) : readLines g line document .start = .start := by
    induction document generalizing line with
    | nil => rfl
    | cons text rest ih =>
      obtain ⟨here, further⟩ := List.forall_mem_cons.mp nowhere
      have stuck : step g line text .start 0 = none := by simp [step, State.start, here]
      have stays : readLine g line text .start = .start := by
        rw [readLine, steps, if_pos (Nat.zero_le _), stuck]
        rfl
      rw [readLines, stays, ih further]
  rw [run, read]
  rfl

namespace RuleSet

open Fold

/-- Where a marker of one rule matches in a line, no marker of another rule matches. -/
def Apart (set : RuleSet) (text : Line) : Prop :=
  ∀ a ∈ set.candidates, ∀ b ∈ set.candidates, a.rule ≠ b.rule → ∀ place ≤ text.size,
    a.pattern.node.matchAt text place = none ∨ b.pattern.node.matchAt text place = none

instance (set : RuleSet) (text : Line) : Decidable (Apart set text) :=
  inferInstanceAs (Decidable (∀ a ∈ set.candidates, ∀ b ∈ set.candidates, a.rule ≠ b.rule →
    ∀ place ≤ text.size, a.pattern.node.matchAt text place = none ∨ b.pattern.node.matchAt text place = none))

/-- The rules of a set are among those of another one, at other positions, and the other ones there have no
markers in a line. -/
structure Among (position : Nat → Nat) (set other : RuleSet) (text : Line) : Prop where
  known : ∀ rule, other.rules[position rule]? = set.rules[rule]?
  foreign : ∀ b ∈ other.candidates, ∀ place ≤ text.size, ∀ own,
    b.pattern.node.matchAt text place = some own → ∃ a ∈ set.candidates, a.moved position = b

namespace Among

variable {position : Nat → Nat} {set other : RuleSet} {text : Line} {place : Nat}
  {found found' : MarkerMatch} {a a' : Candidate} {own own' : Pattern.Found}

theorem moved_mem (among : Among position set other text) (member : a ∈ set.candidates) :
    a.moved position ∈ other.candidates := by
  obtain ⟨r, known, inside⟩ := Candidate.mem_ofRules.mp member
  exact Candidate.mem_ofRules.mpr ⟨r, (among.known a.rule).trans known, inside⟩

theorem fails_iff (among : Among position set other text) :
    (∀ a ∈ set.candidates, a.pattern.find? text place = none) ↔
      ∀ b ∈ other.candidates, b.pattern.find? text place = none := by
  constructor
  · intro nowhere b member
    refine Pattern.Node.search_eq_none.mpr fun further above below => ?_
    cases matched : b.pattern.node.matchAt text further with
    | none => rfl
    | some own =>
      obtain ⟨a, inside, rfl⟩ := among.foreign b member further below own matched
      have absent := Pattern.Node.search_eq_none.mp (nowhere a inside) further above below
      exact matched.symm.trans absent
  · exact fun nowhere a member => nowhere (a.moved position) (among.moved_mem member)

theorem start_eq (among : Among position set other text) (reports : Reports set text place found a own)
    (reports' : Reports other text place found' a' own') : found'.start = found.start := by
  refine Nat.le_antisymm (Nat.le_of_not_lt fun later => ?_) (Nat.le_of_not_lt fun sooner => ?_)
  · have absent := reports'.earlier _ (among.moved_mem reports.mem) found.start reports.above later
    cases absent.symm.trans reports.matched
  · obtain ⟨b, member, rfl⟩ := among.foreign a' reports'.mem _ reports'.below own' reports'.matched
    have absent := reports.earlier b member found'.start reports'.above sooner
    cases absent.symm.trans reports'.matched

theorem marker_eq (among : Among position set other text) (apart : Apart set text)
    (reports : Reports set text place found a own)
    (reports' : Reports other text place found' a' own') : a' = a.moved position := by
  have start := among.start_eq reports reports'
  obtain ⟨b, member, rfl⟩ := among.foreign a' reports'.mem _ reports'.below own' reports'.matched
  have matched : b.pattern.node.matchAt text found.start = some own' := start ▸ reports'.matched
  have sameRule : a.rule = b.rule := by
    by_contra different
    rcases apart a reports.mem b member different found.start reports.below with absent | absent
    · cases absent.symm.trans reports.matched
    · cases absent.symm.trans matched
  obtain ⟨r, known, -⟩ := Candidate.mem_ofRules.mp reports.mem
  have known' : other.rules[(b.moved position).rule]? = some r :=
    (among.known b.rule).trans (sameRule ▸ known)
  obtain ⟨before, after, split, others⟩ := reports.first
  obtain ⟨before', after', split', others'⟩ := reports'.first
  have first := Candidate.first_of_rule split known others reports.matched
  have first' := Candidate.first_of_rule split' known' (start ▸ others') matched
  obtain ⟨role, pattern⟩ := Prod.mk.inj (Option.some.inj (first.symm.trans first'))
  rw [Candidate.moved, Candidate.moved, sameRule, role, pattern]
  rfl

end Among

section Searching

variable {rules reordered : List Rule} {m m' : Master} {position : Nat → Nat} {text : Line} {place : Nat}
  {found found' : MarkerMatch} {a : Candidate} {own : Pattern.Found}

theorem expect_eq (combined : (compile rules).master = some m)
    (combined' : (compile reordered).master = some m')
    (ordinary : ∀ a ∈ (compile rules).candidates, a.pattern.ordinary = true)
    (ordinary' : ∀ a ∈ (compile reordered).candidates, a.pattern.ordinary = true)
    (searched : m.findAt text place = some found) (searched' : m'.findAt text place = some found')
    (reports : Reports (compile rules) text place found a own)
    (reports' : Reports (compile reordered) text place found' (a.moved position) own)
    (role : found.role = .opening) {r : CompiledRule}
    (known : (compile rules).rules[found.rule]? = some r) {mirror : Mirror}
    (mirrored : r.mirror? = some mirror) :
    mirror.expect (Transport.captured ((compile reordered).grammar m') text found') =
      mirror.expect (Transport.captured ((compile rules).grammar m) text found) := by
  refine Mirror.expect_congr fun number referred => ?_
  obtain ⟨x, -, compiled⟩ := compile_origin (List.mem_of_getElem? known)
  obtain ⟨opening, marker, positive, few⟩ := Rule.compile_references compiled mirrored referred
  obtain ⟨r', known', inside⟩ := Candidate.mem_ofRules.mp reports.mem
  cases (reports.rule ▸ known).symm.trans known'
  have ownRole : a.role = .opening := reports.role.symm.trans role
  obtain rfl := Candidate.opening_unique (ownRole ▸ inside) marker
  obtain ⟨before, after, split, others⟩ := reports.first
  obtain ⟨before', after', split', others'⟩ := reports'.first
  have covered := openingGroup?_own combined ordinary split searched reports.rule ownRole reports.matched
    others positive few
  have covered' := openingGroup?_own combined' ordinary' split' searched' reports'.rule ownRole
    reports'.matched others' positive few
  simp only [Transport.captured, grammar, covered, covered']

theorem finds_of_among (among : Among position (compile rules) (compile reordered) text)
    (combined : (compile rules).master = some m) (combined' : (compile reordered).master = some m')
    (ordinary' : ∀ a ∈ (compile reordered).candidates, a.pattern.ordinary = true)
    (apart : Apart (compile rules) text) :
    (Transport.mk position 0 []).Finds ((compile rules).grammar m) ((compile reordered).grammar m')
      text := by
  intro place
  have ordinary : ∀ a ∈ (compile rules).candidates, a.pattern.ordinary = true :=
    fun a member => ordinary' (a.moved position) (among.moved_mem member)
  rcases compile_reports combined (fun a member => Pattern.verboseFree_of_ordinary (ordinary a member))
      text place with ⟨nothing, nowhere⟩ | ⟨found, a, own, searched, reports⟩ <;>
    rcases compile_reports combined'
      (fun a member => Pattern.verboseFree_of_ordinary (ordinary' a member)) text place with
      ⟨nothing', nowhere'⟩ | ⟨found', a', own', searched', reports'⟩
  · simp only [grammar, nothing, nothing']
    exact .none
  · cases (among.fails_iff.mp nowhere a' reports'.mem).symm.trans reports'.searched
  · cases (among.fails_iff.mpr nowhere' a reports.mem).symm.trans reports.searched
  · obtain rfl := among.marker_eq apart reports reports'
    have start := among.start_eq reports reports'
    cases reports.matched.symm.trans (start ▸ reports'.matched)
    simp only [grammar, searched, searched']
    refine .some ⟨?_, ?_, start, ?_, fun _ => rfl, fun role r known mirror mirrored => ?_⟩
    · exact reports'.role.trans reports.role.symm
    · rw [reports'.rule, reports.rule]
      rfl
    · exact reports'.stop.trans reports.stop.symm
    · exact expect_eq combined combined' ordinary ordinary' searched searched' reports reports' role known
        mirrored

end Searching

theorem among_of_perm {rules inserted reordered : List Rule} (same : reordered.Perm (rules ++ inserted))
    (accepted : (compile rules).rejected = []) (accepted' : (compile reordered).rejected = []) :
    ∃ position : Nat → Nat, Function.Injective position ∧
      (∀ rule, (compile reordered).rules[position rule]? = (compile rules).rules[rule]?) ∧
      ∀ text, (∀ r ∈ inserted, r.Silent text) →
        Among position (compile rules) (compile reordered) text := by
  obtain ⟨position, injective, declared, foreign⟩ := exists_positions same
  have compiled (rule : Nat) : (compile rules).rules[rule]?.map Except.ok = rules[rule]?.map Rule.compile := by
    rw [← List.getElem?_map, compile_accepts accepted, List.getElem?_map]
  have compiled' (rule : Nat) :
      (compile reordered).rules[rule]?.map Except.ok = reordered[rule]?.map Rule.compile := by
    rw [← List.getElem?_map, compile_accepts accepted', List.getElem?_map]
  have ok : Function.Injective (Except.ok : CompiledRule → Except RuleError CompiledRule) :=
    fun _ _ => Except.ok.inj
  have known (rule : Nat) : (compile reordered).rules[position rule]? = (compile rules).rules[rule]? := by
    apply Option.map_injective ok
    rw [compiled, compiled', declared]
  refine ⟨position, injective, known, fun text silent => ⟨known, fun b member place below own matched => ?_⟩⟩
  obtain ⟨c, isRule, marker⟩ := Candidate.mem_ofRules.mp member
  have origin := compiled' b.rule
  rw [isRule, Option.map_some] at origin
  obtain ⟨r, isDeclared, isCompiled⟩ := Option.map_eq_some_iff.mp origin.symm
  rcases foreign b.rule r isDeclared with ⟨rule, moved⟩ | isInserted
  · refine ⟨⟨rule, b.role, b.pattern⟩, Candidate.mem_ofRules.mpr ⟨c, ?_, marker⟩, ?_⟩
    · rw [← known rule, moved, isRule]
    · rw [Candidate.moved, moved]
  · have nowhere := silent r isInserted c (by rw [isCompiled]; rfl) _ marker
    rw [Pattern.matches?_of_matchAt below matched] at nowhere
    cases nowhere

/-- The order in which rules are declared decides between markers of different rules that match at the same place,
and nothing else, and rules whose markers match nowhere do not count: without such ties, folding with the
rules in another order and among such rules gives the same ranges. -/
theorem fold_reordered {rules inserted reordered : List Rule} (same : reordered.Perm (rules ++ inserted))
    (accepted : (compile rules).rejected = []) (accepted' : (compile reordered).rejected = [])
    (ordinary : ∀ a ∈ (compile reordered).candidates, a.pattern.ordinary = true) {document : Document}
    (apart : ∀ text ∈ document, Apart (compile rules) text)
    (silent : ∀ r ∈ inserted, ∀ text ∈ document, r.Silent text) :
    (compile reordered).fold document = (compile rules).fold document := by
  obtain ⟨position, injective, known, among⟩ := among_of_perm same accepted accepted'
  have among (text : Line) (inside : text ∈ document) :
      Among position (compile rules) (compile reordered) text :=
    among text fun r isInserted => silent r isInserted text inside
  cases combined : (compile rules).master with
  | none =>
    cases combined' : (compile reordered).master with
    | none => simp [fold, combined, combined']
    | some m' =>
      have empty : (compile rules).fold document = [] := by simp [fold, combined]
      rw [empty, fold_eq_run combined']
      refine run_eq_nil fun text inside place => ?_
      rcases compile_reports combined' (fun a member => Pattern.verboseFree_of_ordinary (ordinary a member))
          text place with ⟨nothing, -⟩ | ⟨found, a, own, -, reports⟩
      · exact nothing
      · obtain ⟨b, member, -⟩ :=
          (among text inside).foreign a reports.mem _ reports.below own reports.matched
        simp [candidates, compile_no_master combined, Candidate.ofRules] at member
  | some m =>
    cases combined' : (compile reordered).master with
    | none =>
      obtain ⟨first, rest, split⟩ := List.exists_cons_of_ne_nil (compile_master combined).1
      have absent := known 0
      simp [compile_no_master combined', split] at absent
    | some m' =>
      rw [fold_eq_run combined, fold_eq_run combined']
      exact Transport.run_eq ⟨injective, known⟩ document fun text inside =>
        finds_of_among (among text inside) combined combined' ordinary (apart text inside)

/-- Elements with a mirrored closing marker, and parentheses. -/
def elementsAndParentheses : List Rule := [.ofPatterns "<(div|ul)>" "(?s)</\\1>", .ofTexts "(" ")"]

/-- The same rules the other way round, behind one for brackets. -/
def bracketsFirst : List Rule := .ofTexts "[" "]" :: elementsAndParentheses.reverse

set_option maxRecDepth 100000 in
/-- The groups of the element have other numbers in the other order, and its closing marker is the same. -/
theorem fold_reordered_elements :
    bracketsFirst.Perm (elementsAndParentheses ++ [.ofTexts "[" "]"]) ∧
    (compile elementsAndParentheses).rejected = [] ∧ (compile bracketsFirst).rejected = [] ∧
    (∀ a ∈ (compile bracketsFirst).candidates, a.pattern.ordinary = true) ∧
    (∀ text ∈ Document.ofLines ["<div>", "(", "</ul>", ")", "</div>"],
      Apart (compile elementsAndParentheses) text ∧ (Rule.ofTexts "[" "]").Silent text) ∧
    (compile bracketsFirst).fold (.ofLines ["<div>", "(", "</ul>", ")", "</div>"]) =
      [⟨1, 3, .region⟩, ⟨0, 4, .region⟩] := by
  have same : bracketsFirst.Perm (elementsAndParentheses ++ [.ofTexts "[" "]"]) := by decide
  have accepted : (compile elementsAndParentheses).rejected = [] := by decide +kernel
  have accepted' : (compile bracketsFirst).rejected = [] := by decide +kernel
  have ordinary : ∀ a ∈ (compile bracketsFirst).candidates, a.pattern.ordinary = true := by
    decide +kernel
  have lines : ∀ text ∈ Document.ofLines ["<div>", "(", "</ul>", ")", "</div>"],
      Apart (compile elementsAndParentheses) text ∧ (Rule.ofTexts "[" "]").Silent text := by
    decide +kernel
  refine ⟨same, accepted, accepted', ordinary, lines, ?_⟩
  rw [fold_reordered same accepted accepted' ordinary (fun text inside => (lines text inside).1)
    fun r isInserted text inside => List.mem_singleton.mp isInserted ▸ (lines text inside).2]
  decide +kernel

end RuleSet

end Foldmark
