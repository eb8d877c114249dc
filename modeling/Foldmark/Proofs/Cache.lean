import Mathlib.Data.List.Dedup
import Mathlib.Data.List.Induction
import Foldmark.Cache
import Foldmark.Proofs.KeyMap

/-! What a cache answers over a run of questions and invalidations. A rule set is compiled when its language is
first asked for after an invalidation, from the configuration that is given then, and that very rule set is
the answer until the next invalidation. -/
namespace Foldmark.Cache

inductive Action
  | get (language : String) (config : Config)
  | invalidate

def Action.run (c : Cache) : Action → Cache
  | .get language config => (c.get language config).1
  | .invalidate => c.invalidate

def after (done : List Action) : Cache := done.foldl Action.run {}

def answer (done : List Action) (language : String) (config : Config) : Compilation :=
  ((after done).get language config).2

/-- The languages that some actions have asked for since the last invalidation among them, in their order and
with the configurations that were given. -/
def asked (done : List Action) : List (String × Config) :=
  done.foldl (fun before action =>
    match action with
    | .get language config => before ++ [(language, config)]
    | .invalidate => []) []

/-- The rule set that is compiled for a language where none is kept. -/
def fresh (c : Cache) (language : String) (config : Config) : Compilation :=
  ⟨c.next, RuleSet.compile (config.rulesFor language)⟩

variable {c : Cache} {done between : List Action} {language other : String} {config given : Config}
  {x : Compilation}

theorem get_kept (found : c.kept.lookup language = some x) (config : Config) :
    c.get language config = (c, x) := by
  rw [get, found]

theorem get_fresh (missing : c.kept.lookup language = none) (config : Config) :
    c.get language config =
      (⟨(language, c.fresh language config) :: c.kept, c.next + 1⟩, c.fresh language config) := by
  rw [get, missing, fresh]

theorem lookup_get (c : Cache) (language : String) (config : Config) :
    (c.get language config).1.kept.lookup language = some (c.get language config).2 := by
  cases found : c.kept.lookup language with
  | some x => rw [get_kept found, found]
  | none => rw [get_fresh found, Entries.lookup_cons, if_pos rfl]

theorem lookup_get_of_some (found : c.kept.lookup other = some x) (language : String) (config : Config) :
    (c.get language config).1.kept.lookup other = some x := by
  cases own : c.kept.lookup language with
  | some y => rw [get_kept own, found]
  | none =>
    have apart : other ≠ language := by
      rintro rfl
      cases own.symm.trans found
    rw [get_fresh own, Entries.lookup_cons, if_neg apart, found]

/-- Every rule set that is kept has a stamp of its own, which was given before. -/
structure Stamped (c : Cache) : Prop where
  earlier : ∀ e ∈ c.kept, e.2.stamp < c.next
  apart : (c.kept.map (·.2.stamp)).Nodup

theorem Stamped.run (stamped : Stamped c) (action : Action) : Stamped (action.run c) := by
  cases action with
  | invalidate => exact ⟨by simp [Action.run, invalidate], List.nodup_nil⟩
  | get language config =>
    rw [Action.run]
    cases found : c.kept.lookup language with
    | some x =>
      rw [get_kept found]
      exact stamped
    | none =>
      rw [get_fresh found]
      have new : c.next ∉ c.kept.map (·.2.stamp) := by
        intro member
        obtain ⟨e, kept, same⟩ := List.mem_map.mp member
        exact absurd same (Nat.ne_of_lt (stamped.earlier e kept))
      refine ⟨List.forall_mem_cons.mpr ⟨Nat.lt_succ_self _, fun e kept => ?_⟩,
        List.nodup_cons.mpr ⟨new, stamped.apart⟩⟩
      exact Nat.lt_succ_of_lt (stamped.earlier e kept)

theorem after_concat (done : List Action) (action : Action) :
    after (done ++ [action]) = action.run (after done) := by
  rw [after, List.foldl_append]
  rfl

theorem after_stamped (done : List Action) : Stamped (after done) := by
  induction done using List.reverseRecOn with
  | nil => exact ⟨by simp [after], List.nodup_nil⟩
  | append_singleton done action ih => exact after_concat done action ▸ ih.run action

theorem asked_get (done : List Action) (language : String) (config : Config) :
    asked (done ++ [.get language config]) = asked done ++ [(language, config)] := by
  simp [asked]

theorem asked_invalidate (done : List Action) : asked (done ++ [.invalidate]) = [] := by
  simp [asked]

/-- A cache keeps one rule set for each language that was asked for, compiled from the configuration that was
given first. -/
structure Fills (questions : List (String × Config)) (c : Cache) : Prop where
  distinct : (c.kept.map (·.1)).Nodup
  compiled : ∀ language, (c.kept.lookup language).map (·.rules) =
    (questions.lookup language).map fun config => RuleSet.compile (config.rulesFor language)

theorem Fills.get {questions : List (String × Config)} (fills : Fills questions c) (language : String)
    (config : Config) : Fills (questions ++ [(language, config)]) (c.get language config).1 := by
  have more (other : String) : (questions ++ [(language, config)]).lookup other =
      (questions.lookup other).or (if other = language then some config else none) := by
    rw [List.lookup_append, Entries.lookup_cons]
    rfl
  cases found : c.kept.lookup language with
  | some x =>
    rw [get_kept found]
    refine ⟨fills.distinct, fun other => ?_⟩
    rw [fills.compiled, more]
    by_cases same : other = language
    · subst same
      have first := fills.compiled other
      rw [found] at first
      cases own : questions.lookup other with
      | none => simp [own] at first
      | some config => rfl
    · rw [if_neg same, Option.or_none]
  | none =>
    have unasked : questions.lookup language = none := by
      have first := fills.compiled language
      rw [found] at first
      simpa using first.symm
    rw [get_fresh found]
    refine ⟨List.nodup_cons.mpr ⟨?_, fills.distinct⟩, fun other => ?_⟩
    · intro member
      obtain ⟨e, kept, same⟩ := List.mem_map.mp member
      have := List.lookup_eq_none_iff.mp found e kept
      simp [same] at this
    · rw [Entries.lookup_cons, more]
      by_cases same : other = language
      · subst same
        rw [if_pos rfl, if_pos rfl, unasked]
        rfl
      · rw [if_neg same, if_neg same, Option.or_none, fills.compiled]

theorem after_fills (done : List Action) : Fills (asked done) (after done) := by
  induction done using List.reverseRecOn with
  | nil => exact ⟨List.nodup_nil, fun _ => rfl⟩
  | append_singleton done action ih =>
    rw [after_concat]
    cases action with
    | get language config => exact asked_get done language config ▸ ih.get language config
    | invalidate => exact asked_invalidate done ▸ ⟨List.nodup_nil, fun _ => rfl⟩

theorem Fills.keys_perm {questions : List (String × Config)} (fills : Fills questions c) :
    (c.kept.map (·.1)).Perm (questions.map (·.1)).dedup := by
  rw [List.perm_ext_iff_of_nodup fills.distinct (List.nodup_dedup _)]
  have known {α : Type} (entries : List (String × α)) (language : String) :
      language ∈ entries.map (·.1) ↔ (entries.lookup language).isSome = true := by
    rw [← Decidable.not_iff_not, Bool.not_eq_true, Option.isSome_eq_false_iff, Option.isNone_iff_eq_none,
      List.lookup_eq_none_iff]
    simp only [List.mem_map, not_exists, not_and, bne_iff_ne, ne_eq]
    exact forall₂_congr fun _ _ => ne_comm
  intro language
  rw [List.mem_dedup, known, known, ← Option.isSome_map (f := (·.rules)), fills.compiled, Option.isSome_map]

/-- What has become of an answer: it is kept, or an invalidation has dropped it and nothing that is kept has its
stamp. -/
inductive Fate (language : String) (x : Compilation) (between : List Action) (c : Cache) : Prop
  | kept : .invalidate ∉ between → c.kept.lookup language = some x → Fate language x between c
  | dropped : .invalidate ∈ between → (∀ e ∈ c.kept, e.2.stamp ≠ x.stamp) → Fate language x between c

theorem Fate.run (fate : Fate other x between c) (past : x.stamp < c.next) (action : Action) :
    Fate other x (between ++ [action]) (action.run c) ∧ x.stamp < (action.run c).next := by
  cases action with
  | invalidate => exact ⟨.dropped (by simp) (by simp [Action.run, invalidate]), past⟩
  | get language config =>
    have same : .invalidate ∈ between ++ [.get language config] ↔ .invalidate ∈ between := by simp
    rw [Action.run]
    cases fate with
    | kept uninterrupted found =>
      refine ⟨.kept (uninterrupted ∘ same.mp) (lookup_get_of_some found language config), ?_⟩
      cases own : c.kept.lookup language with
      | some y => rwa [get_kept own]
      | none =>
        rw [get_fresh own]
        exact Nat.lt_succ_of_lt past
    | dropped interrupted others =>
      cases own : c.kept.lookup language with
      | some y =>
        rw [get_kept own]
        exact ⟨.dropped (same.mpr interrupted) others, past⟩
      | none =>
        rw [get_fresh own]
        refine ⟨.dropped (same.mpr interrupted) (List.forall_mem_cons.mpr ⟨?_, others⟩), Nat.lt_succ_of_lt past⟩
        exact (Nat.ne_of_lt past).symm

theorem after_fate (done : List Action) (other : String) (given : Config) (between : List Action) :
    Fate other (answer done other given) between (after (done ++ .get other given :: between)) ∧
      (answer done other given).stamp < (after (done ++ .get other given :: between)).next := by
  induction between using List.reverseRecOn with
  | nil =>
    have found := lookup_get (after done) other given
    have member := Entries.mem_of_lookup found
    rw [after_concat]
    exact ⟨.kept List.not_mem_nil found, ((after_stamped done).run (.get other given)).earlier _ member⟩
  | append_singleton between action ih =>
    rw [← List.cons_append, ← List.append_assoc, after_concat]
    exact ih.1.run ih.2 action

/-- Two answers are one and the same just when they are for one language with no invalidation between them. -/
theorem answer_shared (done : List Action) (other : String) (given : Config) (between : List Action)
    (language : String) (config : Config) :
    ((answer (done ++ .get other given :: between) language config).stamp = (answer done other given).stamp ↔
      language = other ∧ .invalidate ∉ between) ∧
    (language = other ∧ .invalidate ∉ between →
      answer (done ++ .get other given :: between) language config = answer done other given) := by
  obtain ⟨fate, past⟩ := after_fate done other given between
  have stamped := after_stamped (done ++ .get other given :: between)
  rw [answer]
  generalize after (done ++ .get other given :: between) = c at fate past stamped ⊢
  generalize answer done other given = x at fate past ⊢
  have shared : language = other ∧ .invalidate ∉ between → (c.get language config).2 = x := by
    rintro ⟨rfl, uninterrupted⟩
    cases fate with
    | kept _ found => rw [get_kept found]
    | dropped interrupted => exact absurd interrupted uninterrupted
  refine ⟨⟨fun same => ?_, fun one => congrArg Compilation.stamp (shared one)⟩, shared⟩
  cases own : c.kept.lookup language with
  | none =>
    rw [get_fresh own] at same
    exact absurd same (Nat.ne_of_lt past).symm
  | some y =>
    rw [get_kept own] at same
    have member := Entries.mem_of_lookup own
    cases fate with
    | kept uninterrupted found =>
      have single := List.inj_on_of_nodup_map stamped.apart member (Entries.mem_of_lookup found) same
      exact ⟨congrArg Prod.fst single, uninterrupted⟩
    | dropped _ others => exact absurd same (others _ member)

/-- Whatever was asked of a cache before, a language has the rule set that is compiled from the configuration of
its first question since the last invalidation, and all its questions since then have that very rule set,
as no others have. One is kept for each language that was asked for since then. So where the configuration
changes only together with an invalidation, the answer is what the present one is compiled to. -/
theorem answers_first (done : List Action) (language : String) (config : Config) :
    (answer done language config).rules =
      RuleSet.compile ((((asked done).lookup language).getD config).rulesFor language) ∧
    (∀ before other given between, done = before ++ .get other given :: between →
      ((answer done language config).stamp = (answer before other given).stamp ↔
        language = other ∧ .invalidate ∉ between) ∧
      (language = other ∧ .invalidate ∉ between →
        answer done language config = answer before other given)) ∧
    (after done).size = ((asked done).map (·.1)).dedup.length ∧
    ((after done).isEmpty = true ↔ asked done = []) ∧
    ((∀ e ∈ asked done, e.2 = config) →
      (answer done language config).rules = RuleSet.compile (config.rulesFor language)) := by
  have fills := after_fills done
  have first : (answer done language config).rules =
      RuleSet.compile ((((asked done).lookup language).getD config).rulesFor language) := by
    have compiled := fills.compiled language
    rw [answer]
    cases own : (after done).kept.lookup language with
    | some x =>
      rw [own, eq_comm, Option.map_some, Option.map_eq_some_iff] at compiled
      obtain ⟨given, asked, same⟩ := compiled
      rw [get_kept own, asked]
      exact same.symm
    | none =>
      rw [own, eq_comm, Option.map_none, Option.map_eq_none_iff] at compiled
      rw [get_fresh own, compiled]
      rfl
  have count := fills.keys_perm.length_eq
  rw [List.length_map] at count
  refine ⟨first, ?_, count, ?_, fun steady => ?_⟩
  · rintro before other given between rfl
    exact answer_shared before other given between language config
  · rw [isEmpty, List.isEmpty_iff_length_eq_zero, count, List.length_eq_zero_iff, List.dedup_eq_nil,
      List.map_eq_nil_iff]
  · rw [first]
    cases own : (asked done).lookup language with
    | none => rfl
    | some given =>
      have same : given = config := steady _ (Entries.mem_of_lookup own)
      rw [Option.getD_some, same]

/-- The initial configuration, and one that has been changed. -/
def changed : Config := Config.initial.addRules "lua" [.ofTexts "--[[" "]]"]

/-- The old rules of a language that was asked for before are the answer up to the next invalidation, and the
changed ones from then on. -/
theorem answers_first_changed :
    answer [.get "lua" .initial, .get "c" .initial] "lua" changed = answer [] "lua" .initial ∧
    (answer [.get "lua" .initial, .invalidate, .get "c" changed] "lua" changed).rules =
      RuleSet.compile [.ofTexts "--[[" "]]"] ∧
    (after [.get "lua" .initial, .invalidate, .get "c" changed, .get "c" changed]).size = 1 := by
  have own : changed.rulesFor "lua" = [.ofTexts "--[[" "]]"] := by decide +kernel
  obtain ⟨-, shared, -⟩ := answers_first [.get "lua" .initial, .get "c" .initial] "lua" changed
  obtain ⟨-, -, -, -, current⟩ := answers_first [.get "lua" .initial, .invalidate, .get "c" changed] "lua" changed
  obtain ⟨-, -, size, -⟩ :=
    answers_first [.get "lua" .initial, .invalidate, .get "c" changed, .get "c" changed] "lua" changed
  refine ⟨?_, ?_, ?_⟩
  · exact (shared [] "lua" .initial [.get "c" .initial] rfl).2 ⟨rfl, by simp⟩
  · rw [current (by simp [asked]), own]
  · rw [size]
    simp [asked]

end Foldmark.Cache
