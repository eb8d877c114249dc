import Foldmark.Rule.Set
import Foldmark.Proofs.Pattern.Alternation

/-! What compiling gives: every marker of a compiled rule is the pattern of its own source, every rule
that does not nest can look for its own markers, and the pattern of a rule set is built from exactly
the rules of the set. -/
namespace Foldmark

namespace CompiledRule

/-- The closing marker that repeats the opening one, if the rule has one. -/
def mirror? (r : CompiledRule) : Option Mirror :=
  match r.matchers with
  | .paired _ _ _ _ mirror => mirror
  | _ => none

/-- The pattern of the middle and closing markers, if the rule looks for them alone. -/
def unnested? (r : CompiledRule) : Option Pattern :=
  match r.matchers with
  | .paired _ _ _ unnested _ => unnested
  | _ => none

def roles (r : CompiledRule) : List Role := r.alternatives.map (·.1)

theorem alternatives_ne_nil (r : CompiledRule) : r.alternatives ≠ [] := by
  unfold alternatives
  split <;> simp

theorem roles_cases (r : CompiledRule) :
    (r.shape = .docstring ∧ r.roles = [.docstring]) ∨ (r.shape = .separator ∧ r.roles = [.separator]) ∨
    (r.shape = .continuation ∧ r.roles = [.opening, .continuation]) ∨
    (r.shape = .paired ∧ ∀ role ∈ r.roles, role = .opening ∨ role = .middle ∨ role = .closing) := by
  unfold roles alternatives shape
  split
  · simp
  · rename_i middle closing _ _ _
    cases middle <;> by_cases nested : r.nested = true <;> simp [nested]
  · simp
  · simp

theorem separator_mem_roles (r : CompiledRule) : .separator ∈ r.roles ↔ r.shape = .separator := by
  rcases r.roles_cases with ⟨shape, roles⟩ | ⟨shape, roles⟩ | ⟨shape, roles⟩ | ⟨shape, roles⟩
  · simp [shape, roles]
  · simp [shape, roles]
  · simp [shape, roles]
  · simpa [shape] using fun member => roles .separator member

theorem docstring_mem_roles (r : CompiledRule) : .docstring ∈ r.roles ↔ r.shape = .docstring := by
  rcases r.roles_cases with ⟨shape, roles⟩ | ⟨shape, roles⟩ | ⟨shape, roles⟩ | ⟨shape, roles⟩
  · simp [shape, roles]
  · simp [shape, roles]
  · simp [shape, roles]
  · simpa [shape] using fun member => roles .docstring member

theorem continuation_mem_roles (r : CompiledRule) :
    .continuation ∈ r.roles ↔ r.isContinuation = true := by
  rcases r.roles_cases with ⟨shape, roles⟩ | ⟨shape, roles⟩ | ⟨shape, roles⟩ | ⟨shape, roles⟩
  · simp [isContinuation, shape, roles]
  · simp [isContinuation, shape, roles]
  · simp [isContinuation, shape, roles]
  · simpa [isContinuation, shape] using fun member => roles .continuation member

theorem paired_of_middle {r : CompiledRule} (h : .middle ∈ r.roles) : r.shape = .paired := by
  rcases r.roles_cases with ⟨-, roles⟩ | ⟨-, roles⟩ | ⟨-, roles⟩ | ⟨shape, -⟩
  · simp [roles] at h
  · simp [roles] at h
  · simp [roles] at h
  · exact shape

theorem mirror?_eq_none {r : CompiledRule} (h : r.shape ≠ .paired) : r.mirror? = none := by
  unfold mirror?
  split
  · rename_i matchers
    simp [shape, matchers] at h
  · rfl

end CompiledRule

namespace Rule

theorem compile_source {source : String} {p : Pattern} (h : Pattern.compile source = .ok p) :
    p.Compiles := by
  rw [Pattern.Compiles, (Pattern.compile_cases h).1]
  exact h

theorem compileMarker_eq {role : Role} {source : String} {p : Pattern}
    (h : compileMarker role source = .ok p) : Pattern.compile source = .ok p := by
  unfold compileMarker at h
  split at h
  · cases h
  · rename_i compiled
    split at h
    · cases h
    · cases h
      exact compiled

theorem compileMarker_occupied {role : Role} {source : String} {p : Pattern}
    (h : compileMarker role source = .ok p) : p.matchesEmpty = false := by
  unfold compileMarker at h
  split at h
  · cases h
  · split at h
    · cases h
    · rename_i occupied
      cases h
      exact Bool.eq_false_iff.mpr occupied

theorem compileMarker_compiles {role : Role} {source : String} {p : Pattern}
    (h : compileMarker role source = .ok p) : p.Compiles :=
  compile_source (compileMarker_eq h)

theorem compileClosing_compiles {opening p : Pattern} {source : String} {mirror : Option Mirror}
    (h : compileClosing opening source = .ok (p, mirror)) : p.Compiles := by
  unfold compileClosing at h
  split at h
  · obtain ⟨closing, compiled, same⟩ := ok_of_bind h
    cases same
    exact compileMarker_compiles compiled
  · split at h
    · cases h
    · obtain ⟨closing, compiled, same⟩ := ok_of_bind h
      cases same
      exact compileMarker_compiles compiled

theorem compileMiddle_compiles {source : Option String} {p : Pattern}
    (h : compileMiddle source = .ok (some p)) : p.Compiles := by
  unfold compileMiddle at h
  split at h
  · cases h
  · split at h
    · rename_i compiled
      cases h
      exact compileMarker_compiles compiled
    · cases h
    · cases h

theorem compilePaired_cases {r : Rule} {opening closing : String} {m : Matchers}
    (h : r.compilePaired opening closing = .ok m) :
    ∃ first middle last unnested mirror, m = .paired first middle last unnested mirror ∧
      first.Compiles ∧ (∀ p ∈ middle, p.Compiles) ∧ last.Compiles ∧
      (r.nested = false → unnested.isSome = true) ∧
      ∀ p ∈ unnested, Pattern.compile (unnestedSource middle last) = .ok p := by
  unfold compilePaired at h
  obtain ⟨first, compiledFirst, h⟩ := ok_of_bind h
  obtain ⟨⟨last, mirror⟩, compiledLast, h⟩ := ok_of_bind h
  obtain ⟨middle, compiledMiddle, h⟩ := ok_of_bind h
  have middles : ∀ p ∈ middle, p.Compiles := by
    intro p member
    cases Option.mem_def.mp member
    exact compileMiddle_compiles compiledMiddle
  split at h
  · rename_i nested
    cases h
    exact ⟨first, middle, last, none, mirror, rfl, compileMarker_compiles compiledFirst, middles,
      compileClosing_compiles compiledLast, by simp [nested], by simp⟩
  · split at h
    · rename_i unnested together
      cases h
      exact ⟨first, middle, last, some unnested, mirror, rfl,
        compileMarker_compiles compiledFirst, middles, compileClosing_compiles compiledLast,
        fun _ => rfl, by simpa using together⟩
    · cases h

theorem compileContinuation_cases {opening suffix : String} {m : Matchers}
    (h : compileContinuation opening suffix = .ok m) :
    ∃ first last, m = .continuation first last ∧ first.Compiles ∧ last.Compiles := by
  unfold compileContinuation at h
  obtain ⟨_, _, h⟩ := ok_of_bind h
  obtain ⟨first, compiledFirst, h⟩ := ok_of_bind h
  obtain ⟨last, compiledLast, h⟩ := ok_of_bind h
  cases h
  exact ⟨first, last, rfl, compileMarker_compiles compiledFirst,
    compileMarker_compiles compiledLast⟩

theorem compileMatchers_cases {r : Rule} {m : Matchers} (h : r.compileMatchers = .ok m) :
    (∃ p, m = .docstring p ∧ p.Compiles) ∨ (∃ p, m = .separator p ∧ p.Compiles) ∨
    (∃ first last, m = .continuation first last ∧ first.Compiles ∧ last.Compiles) ∨
    (∃ first middle last unnested mirror, m = .paired first middle last unnested mirror ∧
      first.Compiles ∧ (∀ p ∈ middle, p.Compiles) ∧ last.Compiles ∧
      (r.nested = false → unnested.isSome = true) ∧
      ∀ p ∈ unnested, Pattern.compile (unnestedSource middle last) = .ok p) := by
  unfold compileMatchers at h
  split at h
  · obtain ⟨p, compiled, h⟩ := ok_of_bind h
    cases h
    exact .inl ⟨p, rfl, compileMarker_compiles compiled⟩
  · exact .inr (.inr (.inr (compilePaired_cases h)))
  · split at h
    · exact .inr (.inr (.inl (compileContinuation_cases h)))
    · cases h
  · split at h
    · obtain ⟨p, compiled, h⟩ := ok_of_bind h
      cases h
      exact .inr (.inl ⟨p, rfl, compileMarker_compiles compiled⟩)
    · cases h
  · cases h

theorem compile_cases {r : Rule} {c : CompiledRule} (h : r.compile = .ok c) :
    r.compileMatchers = .ok c.matchers ∧ c.nested = r.nested := by
  unfold compile at h
  obtain ⟨m, compiled, h⟩ := ok_of_bind h
  cases h
  exact ⟨compiled, rfl⟩

theorem compile_alternatives {r : Rule} {c : CompiledRule} (h : r.compile = .ok c)
    {role : Role} {p : Pattern} (member : (role, p) ∈ c.alternatives) : p.Compiles := by
  obtain ⟨compiled, -⟩ := compile_cases h
  unfold CompiledRule.alternatives at member
  rcases compileMatchers_cases compiled with ⟨q, same, one⟩ | ⟨q, same, one⟩ |
    ⟨first, last, same, one, two⟩ | ⟨first, middle, last, _, _, same, one, between, two, -⟩
  · simp only [same, List.mem_singleton, Prod.mk.injEq] at member
    exact member.2 ▸ one
  · simp only [same, List.mem_singleton, Prod.mk.injEq] at member
    exact member.2 ▸ one
  · simp only [same, List.mem_cons, List.not_mem_nil, Prod.mk.injEq, or_false] at member
    rcases member with ⟨-, rfl⟩ | ⟨-, rfl⟩
    · exact one
    · exact two
  · simp only [same, List.mem_cons, Prod.mk.injEq] at member
    rcases member with ⟨-, rfl⟩ | member
    · exact one
    · split at member
      · rcases List.mem_append.mp member with inner | final
        · obtain ⟨q, isMiddle, equal⟩ := Option.map_eq_some_iff.mp (Option.mem_toList.mp inner)
          cases equal
          exact between p isMiddle
        · simp only [List.mem_singleton, Prod.mk.injEq] at final
          exact final.2 ▸ two
      · simp at member

theorem compile_unnested {r : Rule} {c : CompiledRule} (h : r.compile = .ok c)
    (paired : c.shape = .paired) (alone : c.nested = false) : c.unnested?.isSome = true := by
  obtain ⟨compiled, nested⟩ := compile_cases h
  unfold CompiledRule.shape at paired
  unfold CompiledRule.unnested?
  rcases compileMatchers_cases compiled with ⟨_, same, -⟩ | ⟨_, same, -⟩ | ⟨_, _, same, -⟩ |
    ⟨_, _, _, unnested, _, same, -, -, -, looks, -⟩
  · simp [same] at paired
  · simp [same] at paired
  · simp [same] at paired
  · rw [same]
    exact looks (nested ▸ alone)

end Rule

theorem Master.build_groups {rules : List CompiledRule} {m : Master} (h : build rules = .ok m) :
    ∃ pattern, Pattern.compile ("|".intercalate (sources rules)) = .ok pattern ∧
      m = ⟨pattern, groupsOf rules.length pattern.groupNames⟩ := by
  unfold build at h
  obtain ⟨pattern, compiled, h⟩ := ok_of_bind h
  cases h
  exact ⟨pattern, compiled, rfl⟩

theorem Master.mem_groupsOf {count : Nat} {names : List (Option String)} {group : MasterGroup}
    (member : group ∈ groupsOf count names) :
    group.rule < count ∧ 0 < group.number ∧ group.number ≤ names.length := by
  unfold groupsOf at member
  obtain ⟨named, isNamed, rfl⟩ := List.mem_filterMap.mp member
  obtain ⟨index, inside, equal⟩ := List.mem_mapIdx.mp isNamed
  simp only [Option.bind_eq_bind, Option.bind_eq_some_iff] at equal
  obtain ⟨name, -, ⟨role, rule⟩, -, equal⟩ := equal
  split at equal
  · rename_i bound
    cases equal
    exact ⟨bound, Nat.succ_pos _, inside⟩
  · cases equal

theorem Master.findAt_origin {m : Master} {line : Line} {start : Nat} {found : MarkerMatch}
    (h : m.findAt line start = some found) : m.pattern.find? line start = some found.found ∧
      ∃ group ∈ m.groups, found.role = group.role ∧ found.rule = group.rule := by
  simp only [findAt, Option.bind_eq_bind, Option.bind_eq_some_iff, Option.pure_def,
    Option.some.injEq] at h
  obtain ⟨whole, searched, group, isGroup, rfl⟩ := h
  exact ⟨searched, group, List.mem_of_find?_eq_some isGroup, rfl, rfl⟩

namespace RuleSet

theorem separate_origin (position : Nat) (rules : List Rule) {n : Nat} {c : CompiledRule}
    (member : (n, c) ∈ (separate position rules).1) : ∃ r ∈ rules, r.compile = .ok c := by
  induction rules generalizing position with
  | nil => simp [separate] at member
  | cons r rest ih =>
    simp only [separate] at member
    split at member
    · rename_i compiled
      rcases List.mem_cons.mp member with equal | later
      · cases equal
        exact ⟨r, List.mem_cons_self, compiled⟩
      · obtain ⟨origin, inside, compiled⟩ := ih _ later
        exact ⟨origin, List.mem_cons_of_mem _ inside, compiled⟩
    · obtain ⟨origin, inside, compiled⟩ := ih _ member
      exact ⟨origin, List.mem_cons_of_mem _ inside, compiled⟩

/-- A rule set whose pattern, if there are rules, is built from the rules. -/
def Built (rules : List CompiledRule) (master : Option Master) : Prop :=
  match master with
  | none => rules = []
  | some m => rules ≠ [] ∧ Master.build rules = .ok m

theorem combine_built (accepted : List CompiledRule) (master : Option Master)
    (usable : List (Nat × CompiledRule)) (built : Built accepted master) :
    Built (combine accepted master usable).rules (combine accepted master usable).master ∧
      ∀ c ∈ (combine accepted master usable).rules, c ∈ accepted ∨ c ∈ usable.map (·.2) := by
  induction usable generalizing accepted master with
  | nil => exact ⟨built, fun c member => .inl member⟩
  | cons first rest ih =>
    obtain ⟨position, r⟩ := first
    simp only [combine]
    split
    · rename_i m together
      obtain ⟨valid, origin⟩ := ih (accepted ++ [r]) (some m) ⟨by simp, together⟩
      refine ⟨valid, fun c member => ?_⟩
      rcases origin c member with old | new
      · rcases List.mem_append.mp old with old | last
        · exact .inl old
        · exact .inr (List.mem_cons.mpr (.inl (List.mem_singleton.mp last)))
      · exact .inr (List.mem_cons_of_mem _ new)
    · obtain ⟨valid, origin⟩ := ih accepted master built
      refine ⟨valid, fun c member => ?_⟩
      rcases origin c member with old | new
      · exact .inl old
      · exact .inr (List.mem_cons_of_mem _ new)

theorem compile_built (rules : List Rule) :
    Built (compile rules).rules (compile rules).master ∧
      ∀ c ∈ (compile rules).rules, c ∈ (separate 0 rules).1.map (·.2) := by
  unfold compile
  simp only
  split
  · rename_i m together
    refine ⟨?_, fun c member => member⟩
    by_cases empty : (separate 0 rules).1.map (·.2) = []
    · simp [empty, Built]
    · have occupied : ((separate 0 rules).1.map (·.2)).isEmpty = false :=
        List.isEmpty_eq_false_iff.mpr empty
      simpa only [occupied, Built, Bool.false_eq_true, if_false] using ⟨empty, together⟩
  · obtain ⟨valid, origin⟩ := combine_built [] none (separate 0 rules).1 rfl
    exact ⟨valid, fun c member => (origin c member).resolve_left List.not_mem_nil⟩

theorem compile_master {rules : List Rule} {m : Master} (h : (compile rules).master = some m) :
    (compile rules).rules ≠ [] ∧ Master.build (compile rules).rules = .ok m := by
  have built := (compile_built rules).1
  rwa [h] at built

theorem compile_no_master {rules : List Rule} (h : (compile rules).master = none) :
    (compile rules).rules = [] := by
  have built := (compile_built rules).1
  rwa [h] at built

theorem compile_origin {rules : List Rule} {c : CompiledRule} (member : c ∈ (compile rules).rules) :
    ∃ r ∈ rules, r.compile = .ok c := by
  obtain ⟨⟨position, _⟩, usable, rfl⟩ := List.mem_map.mp ((compile_built rules).2 c member)
  exact separate_origin 0 rules usable

theorem mergeRejected_eq_nil {a b : List Rejection} (h : mergeRejected a b = []) : a = [] ∧ b = [] := by
  rw [← List.length_eq_zero_iff, mergeRejected, List.length_mergeSort, List.length_eq_zero_iff] at h
  exact List.append_eq_nil_iff.mp h

theorem separate_accepts {position : Nat} {rules : List Rule}
    (accepted : (separate position rules).2 = []) :
    (separate position rules).1.map (fun usable => Except.ok usable.2) = rules.map Rule.compile := by
  induction rules generalizing position with
  | nil => rfl
  | cons r rest ih =>
    simp only [separate] at accepted ⊢
    cases compiled : r.compile with
    | ok c =>
      rw [compiled] at accepted
      simp [compiled, ih accepted]
    | error reason =>
      rw [compiled] at accepted
      cases accepted

theorem combine_keeps {accepted : List CompiledRule} {master : Option Master}
    {usable : List (Nat × CompiledRule)} (quiet : (combine accepted master usable).rejected = []) :
    (combine accepted master usable).rules = accepted ++ usable.map (·.2) := by
  induction usable generalizing accepted master with
  | nil => simp [combine]
  | cons first rest ih =>
    obtain ⟨position, r⟩ := first
    simp only [combine] at quiet ⊢
    cases built : Master.build (accepted ++ [r]) with
    | ok m =>
      simp only [built] at quiet ⊢
      simp [ih quiet]
    | error reason =>
      rw [built] at quiet
      cases quiet

theorem compile_accepts {rules : List Rule} (accepted : (compile rules).rejected = []) :
    (compile rules).rules.map Except.ok = rules.map Rule.compile := by
  unfold compile at accepted ⊢
  simp only at accepted ⊢
  split at accepted
  · rw [List.map_map]
    exact separate_accepts accepted
  · obtain ⟨usable, quiet⟩ := mergeRejected_eq_nil accepted
    simp only
    rw [combine_keeps quiet, List.nil_append, List.map_map]
    exact separate_accepts usable

theorem compile_single {r : Rule} (accepted : (compile [r]).rejected = []) :
    ∃ c m, r.compile = .ok c ∧ (compile [r]).rules = [c] ∧ (compile [r]).master = some m := by
  have compiled := compile_accepts accepted
  rw [List.map_cons, List.map_nil, List.map_eq_singleton_iff] at compiled
  obtain ⟨c, rules, ok⟩ := compiled
  cases combined : (compile [r]).master with
  | none => simp [compile_no_master combined] at rules
  | some m => exact ⟨c, m, ok.symm, rules, rfl⟩

end RuleSet

end Foldmark
