import Foldmark.Config.Validation
import Foldmark.Proofs.KeyMap
import Foldmark.Proofs.Rule.Compiled

/-! Validation told by compiling. The problems of a configuration are the rules that folding leaves out. They are
looked for in the lists of all languages, one after the other, but folding compiles the list that a lookup
gives: a list that is configured, maybe for every language, or none. -/
namespace Foldmark

namespace RuleSet

theorem compile_nil : (compile []).rejected = [] := by
  unfold compile
  simp only [separate, List.map_nil]
  split
  · rfl
  · simp [combine, mergeRejected]

theorem compile_length {rules : List Rule} (accepted : (compile rules).rejected = []) :
    (compile rules).rules.length = rules.length := by
  have lengths := congrArg List.length (compile_accepts accepted)
  simpa using lengths

end RuleSet

namespace Config

variable {c : Config} {language : String}

theorem rulesFor_cases (c : Config) (language : String) :
    c.rulesFor language = [] ∨ ∃ configured, (configured, c.rulesFor language) ∈ c.rules.entries := by
  unfold rulesFor
  split
  · rename_i own
    exact .inr ⟨language, KeyMap.mem_entries_iff.mpr own⟩
  · cases fallback : c.rules.get? anyLanguage with
    | none => exact .inl rfl
    | some rules => exact .inr ⟨anyLanguage, KeyMap.mem_entries_iff.mpr fallback⟩

theorem rulesFor_of_mem {rules : List Rule} (member : (language, rules) ∈ c.rules.entries)
    (occupied : rules ≠ []) : c.rulesFor language = rules := by
  have found := KeyMap.mem_entries_iff.mp member
  obtain ⟨r, rest, rfl⟩ := List.exists_cons_of_ne_nil occupied
  rw [rulesFor, found]

/-- Folding uses all rules of every language just when all lists that are configured are used whole. -/
theorem rejects_nothing_iff (c : Config) :
    (∀ language, (RuleSet.compile (c.rulesFor language)).rejected = []) ↔
      ∀ e ∈ c.rules.entries, (RuleSet.compile e.2).rejected = [] := by
  constructor
  · rintro accepted ⟨language, rules⟩ member
    by_cases empty : rules = []
    · subst empty
      exact RuleSet.compile_nil
    · exact rulesFor_of_mem member empty ▸ accepted language
  · intro accepted language
    rcases c.rulesFor_cases language with empty | ⟨configured, member⟩
    · rw [empty, RuleSet.compile_nil]
    · exact accepted (configured, _) member

end Config

namespace Validation

/-- The problems of the rules of a language: the rules that are rejected when they are compiled. -/
def rejections (language : String) (rules : List Rule) : List Problem :=
  (RuleSet.compile rules).rejected.map fun x => .unusableRule language x.position x.reason

theorem problems_ofRules (language : String) (rules : List Rule) :
    (ofRules language rules).problems = rejections language rules := by
  cases rules with
  | nil => rw [rejections, RuleSet.compile_nil]; rfl
  | cons r rest => rfl

theorem problems_ofConfig (c : Config) :
    (ofConfig c).problems =
      (if c.version = Config.currentVersion then [] else [.unsupportedVersion c.version]) ++
        c.rules.entries.flatMap fun e => rejections e.1 e.2 := by
  simp only [ofConfig, List.flatMap_map, problems_ofRules]

theorem problems_eq_nil_iff (c : Config) :
    (ofConfig c).problems = [] ↔ c.version = Config.currentVersion ∧
      ∀ e ∈ c.rules.entries, (RuleSet.compile e.2).rejected = [] := by
  rw [problems_ofConfig, List.append_eq_nil_iff, List.flatMap_eq_nil_iff]
  simp [rejections]

/-- The problems of a configuration are one about the version, if it is not the current one, and one for every
rule that is rejected, by the languages in their order; the messages tell its position and the reason. There
is none just when the version is right and folding uses all rules of every language, whether any are
configured for it or not. -/
theorem ofConfig_predicts (c : Config) :
    (ofConfig c).problems =
      (if c.version = "1.0" then [] else [.unsupportedVersion c.version]) ++
        c.rules.entries.flatMap (fun e => (RuleSet.compile e.2).rejected.map fun x =>
          .unusableRule e.1 x.position x.reason) ∧
      (ofConfig c).problems.map Problem.message =
        (if c.version = "1.0" then [] else [s!"Unsupported config version: {c.version}"]) ++
          c.rules.entries.flatMap (fun e => (RuleSet.compile e.2).rejected.map fun x =>
            s!"[{e.1}] rule #{x.position}: {x.reason.message}") ∧
      c.rules.entries.Pairwise (fun e e' => e.1 < e'.1) ∧
      ((ofConfig c).problems = [] ↔ c.version = "1.0" ∧
        ∀ language, (RuleSet.compile (c.rulesFor language)).rejected = [] ∧
          (RuleSet.compile (c.rulesFor language)).rules.length = (c.rulesFor language).length) := by
  refine ⟨problems_ofConfig c, ?_, c.rules.ordered, ?_⟩
  · rw [problems_ofConfig, List.map_append, List.map_flatMap]
    congr 1
    · rw [apply_ite (List.map Problem.message)]
      rfl
    · simp only [rejections, List.map_map]
      rfl
  · rw [problems_eq_nil_iff, ← c.rejects_nothing_iff]
    refine and_congr_right fun _ => forall_congr' fun language => ?_
    exact ⟨fun accepted => ⟨accepted, RuleSet.compile_length accepted⟩, And.left⟩

set_option maxRecDepth 100000 in
/-- The initial rules work under every version, but only one version is supported. -/
example : (ofConfig { Config.initial with version := "2.0" }).problems = [.unsupportedVersion "2.0"] := by
  decide +kernel

end Validation

end Foldmark
