import Foldmark.Rule.Compiled
import Foldmark.Proofs.Pattern.Enclosed
import Foldmark.Proofs.Pattern.Search

/-! Patterns as named groups of one pattern. If none of them switches the verbose flag on, the groups
mean what the patterns mean alone, and the whole is a choice between them. One pattern alone means the
same in its group whatever flags it switches on. -/
namespace Foldmark.Pattern

def Compiles (p : Pattern) : Prop := compile p.source = .ok p

def tree (p : Pattern) : Ast :=
  match parse p.source.toList with
  | .ok ast => ast
  | .error _ => .empty

/-- Whether the source nowhere switches the verbose flag on. -/
def verboseFree (p : Pattern) : Bool := p.tree.verboseFree

theorem compileChars_eq_ok {source : List Char} {node : Node} :
    compileChars source = .ok node ↔ ∃ ast flags, parse source = .ok ast ∧ ast.groupNames.Nodup ∧
      ast.depth ≤ nestLimit ∧ nodeOf {} ast = .ok (node, flags) ∧ node.fits = true := by
  constructor
  · intro h
    unfold compileChars at h
    obtain ⟨ast, read, h⟩ := ok_of_bind h
    by_cases unique : ast.groupNames.Nodup
    · by_cases deep : nestLimit < ast.depth
      · simp [unique, deep] at h
        cases h
      · simp only [unique, deep, decide_true, Bool.not_true, Bool.false_eq_true, if_false] at h
        obtain ⟨⟨settled, flags⟩, means, h⟩ := ok_of_bind h
        split at h
        · rename_i fits
          cases h
          exact ⟨ast, flags, read, unique, Nat.le_of_not_lt deep, means, fits⟩
        · cases h
    · simp [unique] at h
      cases h
  · rintro ⟨ast, flags, read, unique, shallow, means, fits⟩
    unfold compileChars
    rw [bind_of_ok read]
    simp only [unique, Nat.not_lt_of_le shallow, decide_true, Bool.not_true, Bool.false_eq_true,
      if_false]
    show nodeOf {} ast >>= _ = _
    rw [bind_of_ok means]
    simp only [fits, if_true]
    rfl

theorem compile_cases {source : String} {p : Pattern} (h : compile source = .ok p) :
    p.source = source ∧ ∃ flags, parse source.toList = .ok p.tree ∧
      nodeOf {} p.tree = .ok (p.node, flags) ∧ p.node.fits = true := by
  unfold compile at h
  split at h
  · rename_i node compiled
    cases h
    obtain ⟨ast, flags, read, -, -, means, fits⟩ := compileChars_eq_ok.mp compiled
    have same : Pattern.tree ⟨source, node⟩ = ast := by simp [tree, read]
    rw [same]
    exact ⟨rfl, flags, read, means, fits⟩
  · cases h

theorem readName_whole {name : List Char}
    (valid : ∀ c ∈ name, isNameChar false c = true ∧ c ≠ '>') (t : List Char) :
    readName false (name ++ '>' :: t) = .ok (name, t) := by
  induction name with
  | nil => rfl
  | cons c name ih =>
    obtain ⟨⟨letter, open'⟩, rest⟩ := List.forall_mem_cons.mp valid
    rw [List.cons_append, readName, if_neg open', if_pos letter, bind_of_ok (ih rest)]
    rfl

def ValidName (name : String) : Prop :=
  ∃ first rest, name.toList = first :: rest ∧ isNameChar true first = true ∧ first ≠ '>' ∧
    ∀ c ∈ rest, isNameChar false c = true ∧ c ≠ '>'

theorem readOpening_named {name : String} (valid : ValidName name) (t : List Char) :
    readOpening false ('?' :: 'P' :: '<' :: (name.toList ++ '>' :: t)) =
      .ok (.group (.capture (some name)), t) := by
  obtain ⟨first, rest, letters, letter, inside, valid⟩ := valid
  have read : readName true (name.toList ++ '>' :: t) = .ok (name.toList, t) := by
    rw [letters, List.cons_append, readName, if_neg inside, if_pos letter,
      bind_of_ok (readName_whole valid t)]
    rfl
  have opened : readOpening false ('?' :: 'P' :: '<' :: (name.toList ++ '>' :: t)) =
      readName true (name.toList ++ '>' :: t) >>= fun taken =>
        .ok (.group (.capture (some (String.ofList taken.1))), taken.2) := rfl
  rw [opened, bind_of_ok read]
  simp only [String.ofList_toList]

variable {b : Builder} {source : List Char} {ast : Ast} {name : String}

theorem step_named (valid : ValidName name) (now : b.verbose = false) (t : List Char) :
    step b '(' ('?' :: 'P' :: '<' :: (name.toList ++ '>' :: t)) =
      .ok (b.enter (.capture (some name)), t) := by
  simp only [step, now]
  rw [bind_of_ok (readOpening_named valid _)]
  rfl

theorem run_named (valid : ValidName name) (read : parse source = .ok ast)
    (free : ast.verboseFree = true) (now : b.verbose = false) (t : List Char) :
    run b ('(' :: '?' :: 'P' :: '<' :: (name.toList ++ '>' :: (source ++ ')' :: t))) =
      run (b.add (.group (.capture (some name)) ast)) t := by
  rw [run_cons now (step_named valid now _)]
  · exact run_enclosed read free now (some name) t
  · simp only [List.length_cons, List.length_append]
    omega

/-- What a pattern must be to be one of several that are joined. -/
structure Joinable (entry : String × Pattern) : Prop where
  valid : ValidName entry.1
  compiles : entry.2.Compiles
  free : entry.2.verboseFree = true

/-- The source of some patterns, each in a group with its name, as alternatives. -/
def joined (entries : List (String × Pattern)) : String :=
  "|".intercalate (entries.map fun entry => nameGroup entry.1 entry.2.source)

def groupTree (entry : String × Pattern) : Ast := .group (.capture (some entry.1)) entry.2.tree

def groupNode (entry : String × Pattern) : Node := .group (some entry.1) entry.2.node

theorem toList_nameGroup (name source : String) :
    (nameGroup name source).toList =
      '(' :: '?' :: 'P' :: '<' :: (name.toList ++ '>' :: (source.toList ++ [')'])) := by
  simp [nameGroup, toString]

theorem run_entry {entry : String × Pattern} (joinable : Joinable entry) (now : b.verbose = false)
    (t : List Char) :
    run b ((nameGroup entry.1 entry.2.source).toList ++ t) = run (b.add (groupTree entry)) t := by
  obtain ⟨-, flags, read, -⟩ := compile_cases joinable.compiles
  have same := run_named joinable.valid read joinable.free now t
  simp only [toList_nameGroup, List.cons_append, List.append_assoc, List.nil_append]
  exact same

theorem run_joined (entries : List (String × Pattern)) (first : String × Pattern)
    (joinable : ∀ entry ∈ first :: entries, Joinable entry) (branches : List Ast) :
    ∃ final, run ⟨branches, [], [], false⟩ (joined (first :: entries)).toList = .ok final ∧
      final.outer = [] ∧
      final.body = Ast.ofBranches (branches.reverse ++ (first :: entries).map groupTree) := by
  obtain ⟨own, others⟩ := List.forall_mem_cons.mp joinable
  induction entries generalizing first branches with
  | nil =>
    have same := @run_entry ⟨branches, [], [], false⟩ first own rfl []
    rw [run_nil rfl, List.append_nil] at same
    refine ⟨Builder.add ⟨branches, [], [], false⟩ (groupTree first), ?_, rfl, ?_⟩
    · simpa [joined] using same
    · simp [Builder.body, Builder.add, Ast.ofItems]
  | cons second rest ih =>
    obtain ⟨next, further⟩ := List.forall_mem_cons.mp others
    obtain ⟨final, ran, closed, body⟩ := ih second others (groupTree first :: branches) next further
    refine ⟨final, ?_, closed, ?_⟩
    · have written : (joined (first :: second :: rest)).toList =
          (nameGroup first.1 first.2.source).toList ++ '|' :: (joined (second :: rest)).toList := by
        simp [joined, String.intercalate_cons_cons]
      have stepped : step (Builder.add ⟨branches, [], [], false⟩ (groupTree first)) '|'
          (joined (second :: rest)).toList =
            .ok (⟨groupTree first :: branches, [], [], false⟩, (joined (second :: rest)).toList) :=
        rfl
      rw [written, run_entry own rfl, run_cons rfl stepped (Nat.lt_succ_self _), ran]
    · rw [body, List.reverse_cons, List.append_assoc]
      rfl

theorem parse_joined {entries : List (String × Pattern)} (occupied : entries ≠ [])
    (joinable : ∀ entry ∈ entries, Joinable entry) :
    parse (joined entries).toList = .ok (Ast.ofBranches (entries.map groupTree)) := by
  cases entries with
  | nil => exact absurd rfl occupied
  | cons first rest =>
    obtain ⟨final, ran, closed, body⟩ := run_joined rest first joinable []
    have ran : run .start (joined (first :: rest)).toList = .ok final := ran
    rw [parse, bind_of_ok ran]
    simp only [closed, body, List.isEmpty_nil, if_true]
    rfl

theorem nodeOf_ofBranches (f : Flags) (branches : List Ast) :
    nodeOf f (Ast.ofBranches branches) = nodeOf.alternatives f branches := by
  match branches with
  | [] => simp [Ast.ofBranches, nodeOf, nodeOf.alternatives]
  | [branch] => simp [Ast.ofBranches, nodeOf.alternatives]
  | first :: second :: rest => simp [Ast.ofBranches, nodeOf]

theorem alternatives_groupTree {entries : List (String × Pattern)}
    (joinable : ∀ entry ∈ entries, Joinable entry) :
    nodeOf.alternatives {} (entries.map groupTree) = .ok (.choice (entries.map groupNode), {}) := by
  induction entries with
  | nil => rfl
  | cons first rest ih =>
    obtain ⟨own, others⟩ := List.forall_mem_cons.mp joinable
    have means : nodeOf {} (groupTree first) = .ok (groupNode first, {}) := by
      obtain ⟨-, flags, -, means, -⟩ := compile_cases own.compiles
      rw [groupTree, nodeOf, bind_of_ok means]
      rfl
    cases rest with
    | nil => simpa [nodeOf.alternatives, Node.choice] using means
    | cons second rest =>
      rw [List.map_cons, nodeOf.alternatives, bind_of_ok means]
      · simp only
        rw [bind_of_ok (ih others)]
        rfl
      · simp

theorem compile_joined {entries : List (String × Pattern)} {p : Pattern} (occupied : entries ≠ [])
    (joinable : ∀ entry ∈ entries, Joinable entry) (h : compile (joined entries) = .ok p) :
    p.node = .choice (entries.map groupNode) ∧ p.node.fits = true := by
  obtain ⟨-, flags, read, means, fits⟩ := compile_cases h
  rw [parse_joined occupied joinable] at read
  rw [← Except.ok.inj read, nodeOf_ofBranches, alternatives_groupTree joinable] at means
  simp only [Except.ok.injEq, Prod.mk.injEq] at means
  exact ⟨means.1.symm, fits⟩

/-- A pattern that compiles in a named group means there what it means alone, whatever flags it has. -/
theorem compile_named {p q : Pattern} (valid : ValidName name) (compiles : p.Compiles)
    (h : compile (nameGroup name p.source) = .ok q) : q.node = groupNode (name, p) := by
  obtain ⟨-, flags, read, means, -⟩ := compile_cases h
  obtain ⟨-, inner, alone, ownMeans, -⟩ := compile_cases compiles
  unfold parse at alone
  obtain ⟨final, ran, whole⟩ := ok_of_bind alone
  split at whole
  · rename_i noneOpen
    have body : final.body = p.tree := Except.ok.inj whole
    have closed : final.outer = [] := List.isEmpty_iff.mp noneOpen
    have entered : run .start (nameGroup name p.source).toList =
        run (Builder.start.under [⟨.capture (some name), false, [], []⟩]) (p.source.toList ++ [')']) := by
      rw [toList_nameGroup, run_cons (b := .start) rfl (step_named valid rfl _)]
      · rfl
      · simp only [List.length_cons, List.length_append]
        omega
    unfold parse at read
    rw [entered] at read
    rcases run_under_last ran closed ⟨.capture (some name), false, [], []⟩ [] with left | swallowed
    · rw [bind_of_ok left] at read
      have same : groupTree (name, p) = q.tree := by
        rw [groupTree, ← body]
        exact Except.ok.inj read
      rw [← same, groupTree, nodeOf, bind_of_ok ownMeans] at means
      exact (congrArg Prod.fst (Except.ok.inj means)).symm
    · rw [bind_of_ok swallowed] at read
      simp [Builder.under] at read
      cases read
  · cases whole

end Foldmark.Pattern
