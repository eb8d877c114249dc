import Foldmark.Proofs.Pattern.Alternation

/-! Texts as patterns. A text that is written as a pattern is read as its characters, one after the other, so
the pattern matches at a place just if the text stands there. -/
namespace Foldmark.Pattern

variable {c : Char}

def plainChar (c : Char) : Ast := .literal ⟨c, false⟩

def textNode : List Char → Node
  | [] => .empty
  | [c] => .char c
  | c :: rest => .cat (.char c) (textNode rest)

theorem readEscape_meta (own : isMeta c = true) (rest : List Char) :
    readEscape false (c :: rest) = .ok (plainChar c, rest) := by
  simp only [isMeta, List.mem_cons, List.not_mem_nil, or_false, decide_eq_true_eq] at own
  rcases own with rfl | rfl | rfl | rfl | rfl | rfl | rfl | rfl | rfl | rfl | rfl | rfl | rfl |
    rfl | rfl | rfl | rfl | rfl
  all_goals rfl

theorem step_plain (b : Builder) (other : isMeta c = false) (rest : List Char) :
    step b c rest = .ok (b.add (plainChar c), rest) := by
  unfold step
  split <;> first | rfl | (rename_i special; exact absurd other (by decide))

theorem step_escaped (b : Builder) (now : b.verbose = false) (own : isMeta c = true)
    (rest : List Char) : step b '\\' (c :: rest) = .ok (b.add (plainChar c), rest) := by
  simp only [step, now]
  rw [bind_of_ok (readEscape_meta own rest)]
  rfl

def Builder.addAll (b : Builder) (items : List Ast) : Builder := { b with items := items.reverse ++ b.items }

/-- A source that is read as some items, whatever stands around it. -/
def Reads (source : List Char) (items : List Ast) : Prop :=
  ∀ (b : Builder) (rest : List Char), b.verbose = false → run b (source ++ rest) = run (b.addAll items) rest

namespace Reads

variable {source further : List Char} {items more : List Ast}

theorem nil : Reads [] [] := fun _ _ _ => rfl

theorem append (first : Reads source items) (second : Reads further more) :
    Reads (source ++ further) (items ++ more) := by
  intro b rest now
  have inside : (b.addAll items).verbose = false := now
  rw [List.append_assoc, first b _ now, second _ rest inside]
  simp [Builder.addAll]

theorem quote (text : List Char) : Reads (Pattern.quote text) (text.map plainChar) := by
  induction text with
  | nil => exact nil
  | cons c text ih =>
    intro b rest now
    have more := ih (b.add (plainChar c)) rest now
    rw [Pattern.quote]
    split
    · rename_i own
      rw [List.cons_append, List.cons_append, run_cons now (step_escaped _ now own _)
        (by simp only [List.length_cons]; omega), more]
      simp [Builder.add, Builder.addAll]
    · rename_i other
      rw [List.cons_append, run_cons now (step_plain _ (Bool.eq_false_iff.mpr other) _) (by simp), more]
      simp [Builder.add, Builder.addAll]

theorem run (reads : Reads source items) : Pattern.run .start source = .ok (Builder.start.addAll items) := by
  have whole := reads .start [] rfl
  rwa [List.append_nil, run_nil rfl] at whole

theorem parse (reads : Reads source items) : Pattern.parse source = .ok (Ast.ofItems items) := by
  rw [Pattern.parse, bind_of_ok reads.run]
  simp [Builder.addAll, Builder.start, Builder.body, Ast.ofBranches, pure, Except.pure]

end Reads

theorem quote_injective {first second : List Char} (same : quote first = quote second) :
    first = second := by
  have read := (Reads.quote first).run
  rw [same, (Reads.quote second).run] at read
  simp only [Builder.addAll, Builder.start, Except.ok.injEq, Builder.mk.injEq, true_and, and_true,
    List.append_nil] at read
  have single : ∀ c d, plainChar c = plainChar d → c = d := by
    intro c d equal
    cases equal
    rfl
  exact ((List.map_inj_right single).mp (List.reverse_inj.mp read)).symm

theorem nodeOf_plainChar (c : Char) : nodeOf {} (plainChar c) = .ok (.char c, {}) := by
  simp [plainChar, nodeOf, literalNode, Flags.fold, bind, Except.bind, pure, Except.pure]

theorem nodeOf_plain (text : List Char) :
    nodeOf {} (Ast.ofItems (text.map plainChar)) = .ok (textNode text, {}) := by
  have sequence : ∀ text, nodeOf.sequence {} (text.map plainChar) = .ok (textNode text, {}) := by
    intro text
    induction text with
    | nil => rfl
    | cons c rest ih =>
      cases rest with
      | nil => exact nodeOf_plainChar c
      | cons d rest =>
        simp only [List.map_cons] at ih ⊢
        rw [nodeOf.sequence, bind_of_ok (nodeOf_plainChar c)]
        · simp only
          rw [bind_of_ok ih]
          rfl
        · simp
  match text with
  | [] => rfl
  | [c] => exact nodeOf_plainChar c
  | c :: d :: rest => exact sequence (c :: d :: rest)

/-- A node that matches one text where it stands, and in one way. -/
def Node.StandsFor (node : Node) (chars : List Char) : Prop :=
  ∀ (text : Array Char) (place : Nat), node.outcomes text place =
    if chars.isPrefixOf (text.toList.drop place) then [⟨place + chars.length, []⟩] else []

namespace Node.StandsFor

variable {node a b : Node} {chars others : List Char}

theorem empty : Node.empty.StandsFor [] := fun _ _ => rfl

theorem char (c : Char) : (Node.char c).StandsFor [c] := by
  intro text place
  have first : text[place]? = (text.toList.drop place).head? := by
    rw [List.head?_drop, Array.getElem?_toList]
  rw [outcomes, first]
  cases text.toList.drop place with
  | nil => rfl
  | cons d after =>
    by_cases same : c = d
    · simp [same]
    · simp [same, Ne.symm same]

theorem cat (first : a.StandsFor chars) (second : b.StandsFor others) :
    (Node.cat a b).StandsFor (chars ++ others) := by
  intro text place
  rw [outcomes, first]
  by_cases here : chars.isPrefixOf (text.toList.drop place) = true
  · obtain ⟨behind, stands⟩ := List.isPrefixOf_iff_prefix.mp here
    have after : text.toList.drop (place + chars.length) = behind := by
      rw [← List.drop_drop, ← stands, List.drop_left]
    have whole : (chars ++ others).isPrefixOf (chars ++ behind) = others.isPrefixOf behind := by
      rw [Bool.eq_iff_iff, List.isPrefixOf_iff_prefix, List.isPrefixOf_iff_prefix, List.prefix_append_right_inj]
    rw [if_pos here, List.flatMap_singleton, second, after, ← stands, whole]
    by_cases next : others.isPrefixOf behind = true <;> simp [next, Outcome.distinct, Outcome.append, Nat.add_assoc]
  · have nowhere : (chars ++ others).isPrefixOf (text.toList.drop place) = false := by
      rw [Bool.eq_false_iff]
      intro whole
      exact here (List.isPrefixOf_iff_prefix.mpr
        ((List.prefix_append chars others).trans (List.isPrefixOf_iff_prefix.mp whole)))
    rw [if_neg here, nowhere]
    rfl

theorem matchAt (stands : node.StandsFor chars) (text : Array Char) (place : Nat) :
    node.matchAt text place =
      if chars.isPrefixOf (text.toList.drop place) then some ⟨place, place + chars.length, []⟩ else none := by
  rw [Node.matchAt, stands]
  split <;> rfl

end Node.StandsFor

theorem textNode_standsFor : ∀ chars, (textNode chars).StandsFor chars
  | [] => .empty
  | [c] => .char c
  | c :: d :: rest => .cat (.char c) (textNode_standsFor (d :: rest))

/-- A pattern that means a text, and switches no flag on. -/
structure Spells (p : Pattern) (chars : List Char) : Prop where
  node : p.node = textNode chars
  free : p.verboseFree = true

theorem allFree_plainChars (chars : List Char) : AllFree (chars.map plainChar) := by
  intro item member
  obtain ⟨c, -, rfl⟩ := List.mem_map.mp member
  rfl

theorem compile_quote {text : String} {p : Pattern} (h : compile (quoteText text) = .ok p) :
    p.Spells text.toList := by
  obtain ⟨-, flags, read, means, -⟩ := compile_cases h
  rw [quoteText, String.toList_ofList, (Reads.quote _).parse] at read
  have tree : Ast.ofItems (text.toList.map plainChar) = p.tree := Except.ok.inj read
  rw [← tree, nodeOf_plain] at means
  refine ⟨(congrArg Prod.fst (Except.ok.inj means)).symm, ?_⟩
  rw [verboseFree, ← tree, verboseFree_ofItems]
  exact allFree_plainChars text.toList

namespace Spells

variable {p : Pattern} {chars : List Char}

theorem matchAt (spells : p.Spells chars) (text : Array Char) (place : Nat) :
    p.node.matchAt text place =
      if chars.isPrefixOf (text.toList.drop place) then some ⟨place, place + chars.length, []⟩
      else none := by
  rw [spells.node]
  exact (textNode_standsFor chars).matchAt text place

theorem groupNames (spells : p.Spells chars) : p.groupNames = [] := by
  have bare : ∀ chars, (textNode chars).groups = [] := by
    intro chars
    induction chars with
    | nil => rfl
    | cons c rest ih =>
      cases rest with
      | nil => rfl
      | cons d rest =>
        rw [textNode, Node.groups, ih]
        · rfl
        · simp
  rw [Pattern.groupNames, spells.node, bare, List.map_nil]

theorem matchesEmpty (spells : p.Spells chars) (occupied : chars ≠ []) : p.matchesEmpty = false := by
  obtain ⟨c, rest, rfl⟩ := List.exists_cons_of_ne_nil occupied
  have nowhere : p.node.search #[] 0 = none := by
    refine Node.search_eq_none.mpr fun place _ _ => ?_
    simp [spells.matchAt]
  simp [Pattern.matchesEmpty, matches?, nowhere]

end Spells

end Foldmark.Pattern
