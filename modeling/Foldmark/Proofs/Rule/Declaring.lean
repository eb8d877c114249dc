import Mathlib.Data.List.Induction
import Mathlib.Data.List.Nodup
import Foldmark.Proofs.Rule.Master

/-! Declaring one more rule. Rules are combined all at once if that succeeds, and one by one if not. As long
as no pattern switches the verbose flag on, both give the same, and what becomes of a rule depends on
the rules before it only. -/
namespace Foldmark

namespace Master

/-- Whether the patterns of some rules combine. -/
def Combine (rules : List CompiledRule) : Prop := ∃ m, build rules = .ok m

theorem combine_iff {rules : List CompiledRule} :
    Combine rules ↔ ∃ p, Pattern.compile ("|".intercalate (sources rules)) = .ok p := by
  constructor
  · rintro ⟨m, built⟩
    obtain ⟨p, compiled, -⟩ := build_groups built
    exact ⟨p, compiled⟩
  · rintro ⟨p, compiled⟩
    exact ⟨_, bind_of_ok compiled _⟩

theorem ofRules_append (front back : List CompiledRule) :
    ∃ more, Candidate.ofRules (front ++ back) = Candidate.ofRules front ++ more := by
  rw [Candidate.ofRules, List.mapIdx_append, List.flatten_append]
  exact ⟨_, rfl⟩

theorem combine_iff_joins {rules : List CompiledRule}
    (compiles : ∀ a ∈ Candidate.ofRules rules, a.pattern.Compiles)
    (free : ∀ a ∈ Candidate.ofRules rules, a.pattern.verboseFree = true) :
    Combine rules ↔ Pattern.Joins ((Candidate.ofRules rules).map Candidate.entry) := by
  rw [combine_iff, Candidate.sources_eq]
  refine Pattern.compile_joined_iff fun entry member => ?_
  obtain ⟨a, inside, rfl⟩ := List.mem_map.mp member
  exact ⟨MasterGroup.validName a.role a.rule, compiles a inside, free a inside⟩

theorem Combine.front {front back : List CompiledRule}
    (compiles : ∀ a ∈ Candidate.ofRules (front ++ back), a.pattern.Compiles)
    (free : ∀ a ∈ Candidate.ofRules (front ++ back), a.pattern.verboseFree = true)
    (h : Combine (front ++ back)) : Combine front := by
  obtain ⟨more, split⟩ := ofRules_append front back
  rw [combine_iff_joins compiles free, split, List.map_append] at h
  rw [split, List.forall_mem_append] at compiles free
  exact (combine_iff_joins compiles.1 free.1).mpr h.front

end Master

/-- No marker of the rule that can be found anywhere switches the verbose flag on. -/
def Rule.VerboseFree (r : Rule) : Prop :=
  ∀ c ∈ r.compile.toOption, ∀ a ∈ c.alternatives, a.2.verboseFree = true

instance (r : Rule) : Decidable r.VerboseFree :=
  inferInstanceAs (Decidable (∀ c ∈ r.compile.toOption, ∀ a ∈ c.alternatives, a.2.verboseFree = true))

def Rule.usable (rules : List Rule) : List CompiledRule := rules.filterMap fun r => r.compile.toOption

theorem Rule.mem_usable {rules : List Rule} {c : CompiledRule} :
    c ∈ usable rules ↔ ∃ r ∈ rules, r.compile = .ok c := by
  rw [usable, List.mem_filterMap]
  refine exists_congr fun r => and_congr_right fun _ => ?_
  cases r.compile <;> simp [Except.toOption]

theorem Rule.usable_markers {rules : List Rule} (free : ∀ r ∈ rules, r.VerboseFree) :
    ∀ a ∈ Candidate.ofRules (usable rules), a.pattern.Compiles ∧ a.pattern.verboseFree = true := by
  intro a member
  obtain ⟨c, known, inside⟩ := Candidate.mem_ofRules.mp member
  obtain ⟨r, declared, compiled⟩ := mem_usable.mp (List.mem_of_getElem? known)
  have accepted : c ∈ r.compile.toOption := by
    rw [compiled]
    rfl
  have alone := compile_alternatives compiled inside
  have plain := free r declared c accepted _ inside
  exact ⟨alone, plain⟩

namespace RuleSet

theorem separate_usable (position : Nat) (rules : List Rule) :
    (separate position rules).1.map (·.2) = Rule.usable rules := by
  induction rules generalizing position with
  | nil => rfl
  | cons r rest ih =>
    simp only [separate, Rule.usable, List.filterMap_cons]
    cases r.compile with
    | ok c => simpa [Except.toOption, Rule.usable] using ih (position + 1)
    | error reason => simpa [Except.toOption, Rule.usable] using ih (position + 1)

/-- What becomes of one more rule, which is declared at a position: it takes part if it combines with the
rules that take part already, and is rejected otherwise. Nothing becomes of the others. -/
inductive Declares (r : Rule) (position : Nat) (old new : RuleSet) : Prop where
  | accepted (c : CompiledRule) (m : Master) : r.compile = .ok c →
      Master.build (old.rules ++ [c]) = .ok m →
      new = ⟨old.rules ++ [c], some m, old.rejected⟩ → Declares r position old new
  | unusable (reason : RuleError) : r.compile = .error reason →
      new = ⟨old.rules, old.master, old.rejected ++ [⟨position, reason⟩]⟩ →
      Declares r position old new
  | clashing (c : CompiledRule) (reason : Pattern.PatternError) : r.compile = .ok c →
      Master.build (old.rules ++ [c]) = .error reason →
      new = ⟨old.rules, old.master, old.rejected ++ [⟨position, .masterConflict reason⟩]⟩ →
      Declares r position old new

def oneByOne (rules : List Rule) : RuleSet :=
  let (usable, rejected) := separate 0 rules
  let set := combine [] none usable
  { set with rejected := mergeRejected rejected set.rejected }

theorem separate_append (position : Nat) (rules : List Rule) (r : Rule) :
    separate position (rules ++ [r]) =
      match r.compile with
      | .ok c => ((separate position rules).1 ++ [(position + rules.length, c)],
          (separate position rules).2)
      | .error reason => ((separate position rules).1,
          (separate position rules).2 ++ [⟨position + rules.length, reason⟩]) := by
  induction rules generalizing position with
  | nil =>
    cases compiled : r.compile <;> simp [separate, compiled]
  | cons first rest ih =>
    have shifted : position + 1 + rest.length = position + (rest.length + 1) := by omega
    simp only [List.cons_append, separate, ih, List.length_cons, shifted]
    cases r.compile <;> cases first.compile <;> rfl

theorem separate_positions (position : Nat) (rules : List Rule) :
    ((separate position rules).1.map (·.1) ++
      (separate position rules).2.map (·.position)).Perm (List.range' position rules.length) := by
  induction rules generalizing position with
  | nil => exact .refl _
  | cons first rest ih =>
    simp only [separate, List.length_cons, List.range'_succ]
    cases first.compile with
    | ok c => exact (ih (position + 1)).cons position
    | error reason => exact List.perm_middle.trans ((ih (position + 1)).cons position)

theorem combine_append (accepted : List CompiledRule) (master : Option Master)
    (usable : List (Nat × CompiledRule)) (position : Nat) (c : CompiledRule) :
    combine accepted master (usable ++ [(position, c)]) =
      match Master.build ((combine accepted master usable).rules ++ [c]) with
      | .ok m => ⟨(combine accepted master usable).rules ++ [c], some m,
          (combine accepted master usable).rejected⟩
      | .error reason => ⟨(combine accepted master usable).rules,
          (combine accepted master usable).master,
          (combine accepted master usable).rejected ++ [⟨position, .masterConflict reason⟩]⟩ := by
  induction usable generalizing accepted master with
  | nil => cases built : Master.build (accepted ++ [c]) <;> simp only [List.nil_append, combine, built]
  | cons first rest ih =>
    obtain ⟨own, r⟩ := first
    simp only [List.cons_append, combine]
    cases Master.build (accepted ++ [r]) with
    | ok m => exact ih (accepted ++ [r]) (some m)
    | error reason =>
      simp only [ih accepted master]
      cases Master.build ((combine accepted master rest).rules ++ [c]) <;> rfl

theorem separate_ordered (position : Nat) (rules : List Rule) :
    ((separate position rules).2.map (·.position)).Sublist (List.range' position rules.length) := by
  induction rules generalizing position with
  | nil => exact .slnil
  | cons first rest ih =>
    simp only [separate, List.length_cons, List.range'_succ]
    cases first.compile with
    | ok c => exact (ih (position + 1)).cons position
    | error reason => exact (ih (position + 1)).cons_cons position

theorem combine_ordered (accepted : List CompiledRule) (master : Option Master)
    (usable : List (Nat × CompiledRule)) :
    ((combine accepted master usable).rejected.map (·.position)).Sublist (usable.map (·.1)) := by
  induction usable generalizing accepted master with
  | nil => exact .slnil
  | cons first rest ih =>
    obtain ⟨position, r⟩ := first
    simp only [combine, List.map_cons]
    cases Master.build (accepted ++ [r]) with
    | ok m => exact (ih (accepted ++ [r]) (some m)).cons position
    | error reason => exact (ih accepted master).cons_cons position

theorem rejected_once (rules : List Rule) (accepted : List CompiledRule) (master : Option Master) :
    (((separate 0 rules).2 ++ (combine accepted master (separate 0 rules).1).rejected).map
      (·.position)).Nodup ∧
    ∀ x ∈ (separate 0 rules).2 ++ (combine accepted master (separate 0 rules).1).rejected,
      x.position < rules.length := by
  have part := (List.Sublist.refl ((separate 0 rules).2.map (·.position))).append
    (combine_ordered accepted master (separate 0 rules).1)
  rw [← List.map_append] at part
  have whole := List.perm_append_comm.trans (separate_positions 0 rules)
  refine ⟨part.nodup (whole.nodup_iff.mpr (List.nodup_range' 1)), fun x member => ?_⟩
  have inside := whole.mem_iff.mp (part.subset (List.mem_map_of_mem member))
  exact Nat.zero_add rules.length ▸ (List.mem_range'_1.mp inside).2

variable {a b : List Rejection} {x : Rejection}

theorem mergeRejected_ordered (distinct : ((a ++ b).map (·.position)).Nodup) :
    (mergeRejected a b).Pairwise (·.position < ·.position) := by
  have same : (mergeRejected a b).Perm (a ++ b) := List.mergeSort_perm _ _
  have sorted : (mergeRejected a b).Pairwise (·.position ≤ ·.position) := by
    have := @List.pairwise_mergeSort _ (fun r s : Rejection => decide (r.position ≤ s.position))
      (by simpa using fun _ _ _ => Nat.le_trans) (by simpa using fun _ _ => Nat.le_total _ _) (a ++ b)
    simpa only [mergeRejected, decide_eq_true_eq] using this
  have different := List.pairwise_map.mp ((same.map (·.position)).nodup_iff.mpr distinct)
  exact (sorted.and different).imp fun both => Nat.lt_of_le_of_ne both.1 both.2

theorem mergeRejected_eq {merged : List Rejection} (same : merged.Perm (a ++ b))
    (ordered : merged.Pairwise (·.position < ·.position)) : mergeRejected a b = merged := by
  have distinct : (merged.map (·.position)).Nodup :=
    List.pairwise_map.mpr (ordered.imp fun before => Nat.ne_of_lt before)
  have again := mergeRejected_ordered ((same.map (·.position)).nodup_iff.mp distinct)
  exact List.Perm.eq_of_pairwise (fun _ _ _ _ before after => absurd before (Nat.lt_asymm after))
    again ordered ((List.mergeSort_perm _ _).trans same.symm)

theorem mergeRejected_last (distinct : ((a ++ b).map (·.position)).Nodup)
    (last : ∀ r ∈ a ++ b, r.position < x.position) :
    mergeRejected (a ++ [x]) b = mergeRejected a b ++ [x] ∧
      mergeRejected a (b ++ [x]) = mergeRejected a b ++ [x] := by
  have same : (mergeRejected a b).Perm (a ++ b) := List.mergeSort_perm _ _
  have ordered : (mergeRejected a b ++ [x]).Pairwise (·.position < ·.position) := by
    rw [List.pairwise_append]
    refine ⟨mergeRejected_ordered distinct, List.pairwise_singleton _ _, fun r member y equal => ?_⟩
    exact List.mem_singleton.mp equal ▸ last r (same.mem_iff.mp member)
  have back := same.append_right [x]
  constructor
  · refine mergeRejected_eq (back.trans ?_) ordered
    rw [List.append_assoc, List.append_assoc]
    exact List.perm_append_comm.append_left a
  · exact mergeRejected_eq (List.append_assoc a b [x] ▸ back) ordered

theorem oneByOne_append (rules : List Rule) (r : Rule) :
    Declares r rules.length (oneByOne rules) (oneByOne (rules ++ [r])) := by
  obtain ⟨distinct, last⟩ := rejected_once rules [] none
  have separated := separate_append 0 rules r
  rw [Nat.zero_add] at separated
  cases compiled : r.compile with
  | error reason =>
    rw [compiled] at separated
    refine .unusable reason compiled ?_
    simp only [oneByOne, separated,
      (mergeRejected_last (x := ⟨rules.length, reason⟩) distinct last).1]
  | ok c =>
    rw [compiled] at separated
    have combined := combine_append [] none (separate 0 rules).1 rules.length c
    cases built : Master.build ((oneByOne rules).rules ++ [c]) with
    | ok m =>
      refine .accepted c m compiled built ?_
      have built' : Master.build ((combine [] none (separate 0 rules).1).rules ++ [c]) = .ok m := built
      simp only [oneByOne, separated, combined, built']
    | error reason =>
      refine .clashing c reason compiled built ?_
      have built' : Master.build ((combine [] none (separate 0 rules).1).rules ++ [c]) =
        .error reason := built
      simp only [oneByOne, separated, combined, built',
        (mergeRejected_last (x := ⟨rules.length, .masterConflict reason⟩) distinct last).2]

theorem Declares.keeps {r : Rule} {position : Nat} {old new : RuleSet} (h : Declares r position old new) :
    old.rules <+: new.rules ∧ old.rejected <+: new.rejected := by
  cases h with
  | accepted c m _ _ same => exact same ▸ ⟨List.prefix_append _ _, List.prefix_rfl⟩
  | unusable _ _ same => exact same ▸ ⟨List.prefix_rfl, List.prefix_append _ _⟩
  | clashing _ _ _ _ same => exact same ▸ ⟨List.prefix_rfl, List.prefix_append _ _⟩

theorem combine_accepts (accepted : List CompiledRule) (master : Option Master)
    (usable : List (Nat × CompiledRule))
    (fronts : ∀ front back, accepted ++ usable.map (·.2) = front ++ back → Master.Combine front) :
    (combine accepted master usable).rules = accepted ++ usable.map (·.2) ∧
      (combine accepted master usable).rejected = [] := by
  induction usable generalizing accepted master with
  | nil => exact ⟨(List.append_nil accepted).symm, rfl⟩
  | cons first rest ih =>
    obtain ⟨position, r⟩ := first
    rw [List.map_cons, List.append_cons] at fronts ⊢
    obtain ⟨m, built⟩ := fronts (accepted ++ [r]) (rest.map (·.2)) rfl
    simp only [combine, built]
    exact ih (accepted ++ [r]) (some m) fronts

theorem Built.unique {rules : List CompiledRule} {first second : Option Master}
    (h : Built rules first) (h' : Built rules second) : first = second := by
  cases first <;> cases second <;> simp_all [Built]

/-- If the rules combine only if they do so at every step, it is the same to combine them all at once. -/
theorem compile_eq_oneByOne {rules : List Rule}
    (fronts : ∀ front back, (separate 0 rules).1.map (·.2) = front ++ back →
      Master.Combine (front ++ back) → Master.Combine front) : compile rules = oneByOne rules := by
  cases together : Master.build ((separate 0 rules).1.map (·.2)) with
  | error reason => simp only [compile, oneByOne, together]
  | ok m =>
    obtain ⟨accepted, quiet⟩ := combine_accepts [] none (separate 0 rules).1
      fun front back split => fronts front back split (split ▸ ⟨m, together⟩)
    have sameRules : (compile rules).rules = (oneByOne rules).rules := by
      simp only [compile, oneByOne, together, accepted, List.nil_append]
    have sameRejected : (compile rules).rejected = (oneByOne rules).rejected := by
      have ordered := List.pairwise_map.mp
        ((List.pairwise_lt_range' 1).sublist (separate_ordered 0 rules))
      simp only [compile, oneByOne, together, quiet]
      exact (mergeRejected_eq (by rw [List.append_nil]) ordered).symm
    have built : Built (oneByOne rules).rules (oneByOne rules).master :=
      (combine_built [] none (separate 0 rules).1 rfl).1
    have sameMaster := Built.unique (sameRules ▸ (compile_built rules).1) built
    have parts (set : RuleSet) : set = ⟨set.rules, set.master, set.rejected⟩ := rfl
    rw [parts (compile rules), sameRules, sameMaster, sameRejected]

/-- Without the verbose flag, combining the rules one by one gives what combining them at once gives. -/
theorem compile_eq_of_verboseFree {rules : List Rule} (free : ∀ r ∈ rules, r.VerboseFree) :
    compile rules = oneByOne rules := by
  refine compile_eq_oneByOne fun front back split => ?_
  have markers := Rule.usable_markers free
  rw [← separate_usable 0, split] at markers
  exact Master.Combine.front (fun a member => (markers a member).1) fun a member => (markers a member).2

/-- Whatever is declared behind some rules, the same ones of them take part and the same are rejected. -/
theorem compile_prefix (front back : List Rule) (free : ∀ x ∈ front ++ back, x.VerboseFree) :
    (compile front).rules <+: (compile (front ++ back)).rules ∧
      (compile front).rejected <+: (compile (front ++ back)).rejected := by
  rw [compile_eq_of_verboseFree free,
    compile_eq_of_verboseFree fun x member => free x (List.mem_append_left _ member)]
  clear free
  induction back using List.reverseRecOn with
  | nil =>
    rw [List.append_nil]
    exact ⟨List.prefix_rfl, List.prefix_rfl⟩
  | append_singleton back r ih =>
    have step := (oneByOne_append (front ++ back) r).keeps
    rw [← List.append_assoc]
    exact ⟨ih.1.trans step.1, ih.2.trans step.2⟩

/-- What becomes of a rule depends on the rules before it only, whether the rules combine at once or not,
as long as no marker switches the verbose flag on. -/
theorem compile_append (rules : List Rule) (r : Rule) (free : ∀ x ∈ rules ++ [r], x.VerboseFree) :
    Declares r rules.length (compile rules) (compile (rules ++ [r])) := by
  rw [compile_eq_of_verboseFree free,
    compile_eq_of_verboseFree fun x member => free x (List.mem_append_left _ member)]
  exact oneByOne_append rules r

set_option maxRecDepth 100000 in
/-- A rule that has a group of the same name as a rule before it is left out. -/
theorem compile_append_clashing :
    (∀ x ∈ [Rule.ofPatterns "(?P<tag>a)" "b"] ++ [Rule.ofPatterns "(?P<tag>c)" "d"], x.VerboseFree) ∧
    Declares (.ofPatterns "(?P<tag>c)" "d") 1 (compile [.ofPatterns "(?P<tag>a)" "b"])
      (compile [.ofPatterns "(?P<tag>a)" "b", .ofPatterns "(?P<tag>c)" "d"]) ∧
    (compile [.ofPatterns "(?P<tag>a)" "b", .ofPatterns "(?P<tag>c)" "d"]).rejected.map (·.position) =
      [1] := by
  have evaluated :
      (∀ x ∈ [Rule.ofPatterns "(?P<tag>a)" "b"] ++ [Rule.ofPatterns "(?P<tag>c)" "d"], x.VerboseFree) ∧
      (compile [.ofPatterns "(?P<tag>a)" "b", .ofPatterns "(?P<tag>c)" "d"]).rejected.map (·.position) =
        [1] := by decide +kernel
  exact ⟨evaluated.1, compile_append _ _ evaluated.1, evaluated.2⟩

/-- A rule whose pattern ends in a comment, which hides the end of the group around it. -/
def commentedRule : Rule := { separator := { regex := some "(?x)a #" } }

/-- A rule whose pattern ends the comment of a rule before it, and opens a group in a comment. -/
def resumingRule : Rule := { separator := { regex := some "(?x)(?:b\n)#(\n" } }

set_option maxRecDepth 100000 in
/-- With the verbose flag, a rule that is rejected takes part when another one is declared behind it, and
does so no longer when a third one is. -/
theorem compile_append_revives :
    ¬ (compile [commentedRule]).rejected <+: (compile ([commentedRule] ++ [resumingRule])).rejected ∧
    ¬ (compile [commentedRule, resumingRule]).rules.length ≤
      (compile ([commentedRule, resumingRule] ++ [commentedRule])).rules.length := by
  decide +kernel

end RuleSet

end Foldmark
