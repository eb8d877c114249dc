import Foldmark.Proofs.Config.Session
import Foldmark.Proofs.Config.Validation
import Foldmark.Proofs.Format.Ascii
import Foldmark.Proofs.Rule.Combining

/-! Rules that are added one by one. Each is checked alone and marker by marker, but the rules of a language are
compiled together. What the check lets through and compiling rejects are clashes between markers, be they
of several rules or of one. -/
namespace Foldmark

namespace Config

variable {c : Config} {property : Rule → Prop} {language : String} {rules : List Rule}
  {adds : List (String × Rule)}

def addEach (c : Config) (adds : List (String × Rule)) : Config :=
  adds.foldl (fun c e => c.addRules e.1 [e.2]) c

def Every (property : Rule → Prop) (c : Config) : Prop := ∀ e ∈ c.rules.entries, ∀ r ∈ e.2, property r

theorem Every.addRules (every : c.Every property) (added : ∀ r ∈ rules, property r) :
    (c.addRules language rules).Every property := by
  rintro ⟨key, list⟩ member r inside
  have found := KeyMap.mem_entries_iff.mp member
  rw [(puts_addRules c language rules).2.2] at found
  split at found
  · cases found
    rcases List.mem_append.mp inside with old | new
    · cases present : c.rules.get? language with
      | none => simp [present] at old
      | some before =>
        rw [present] at old
        exact every (language, before) (KeyMap.mem_entries_iff.mpr present) r old
    · exact added r new
  · exact every (key, list) (KeyMap.mem_entries_iff.mpr found) r inside

theorem Every.addEach (every : c.Every property) (added : ∀ e ∈ adds, property e.2) :
    (c.addEach adds).Every property := by
  induction adds generalizing c with
  | nil => exact every
  | cons e rest ih =>
    obtain ⟨first, others⟩ := List.forall_mem_cons.mp added
    exact ih (every.addRules fun r member => List.mem_singleton.mp member ▸ first) others

theorem version_addEach (c : Config) (adds : List (String × Rule)) :
    (c.addEach adds).version = c.version := by
  induction adds generalizing c with
  | nil => rfl
  | cons e rest ih => exact ih (c.addRules e.1 [e.2])

set_option maxRecDepth 100000 in
theorem initial_usable : initial.Every (·.compile.isOk = true) := by
  unfold Every
  decide +kernel

set_option maxRecDepth 100000 in
theorem initial_verboseFree : initial.Every Rule.VerboseFree := by
  unfold Every
  decide +kernel

end Config

namespace Validation

variable {c : Config} (version : c.version = Config.currentVersion)
  (usable : c.Every (·.compile.isOk = true))

include version usable

theorem problems_clash {problem : Problem} (member : problem ∈ (ofConfig c).problems) :
    ∃ language position reason, problem = .unusableRule language position (.masterConflict reason) := by
  rw [problems_ofConfig, if_pos version, List.nil_append, List.mem_flatMap] at member
  obtain ⟨e, listed, member⟩ := member
  obtain ⟨x, rejected, rfl⟩ := List.mem_map.mp member
  obtain ⟨reason, clash⟩ := RuleSet.compile_clashes (usable e listed) rejected
  exact ⟨e.1, x.position, reason, by rw [clash]⟩

theorem problems_eq_nil_iff_combine :
    (ofConfig c).problems = [] ↔ ∀ e ∈ c.rules.entries, Master.Combine (Rule.usable e.2) := by
  rw [problems_eq_nil_iff, and_iff_right version]
  exact forall₂_congr fun e listed => RuleSet.rejects_nothing_iff_combine (usable e listed)

theorem problems_eq_nil_iff_joins (free : c.Every Rule.VerboseFree) :
    (ofConfig c).problems = [] ↔ ∀ e ∈ c.rules.entries,
      Pattern.Joins ((Candidate.ofRules (Rule.usable e.2)).map Candidate.entry) := by
  rw [problems_eq_nil_iff, and_iff_right version]
  exact forall₂_congr fun e listed => RuleSet.rejects_nothing_iff_joins (usable e listed) (free e listed)

end Validation

namespace ConfigFile

variable {path : String} {s s' : Store} {c : Config} {adds : List (String × Rule)}

def addAll (path : String) (adds : List (String × Rule)) : Action Unit :=
  adds.forM fun e => Action.addRule path e.1 e.2

theorem create_mirrors (absent : s.holds path = false) (writable : s.Writable path)
    (back : (formatFor path).readsBack Config.initial.toValue = true) :
    ∃ s', (Action.create path).runOn s = (.ok (), s') ∧ Mirrors path s' .initial := by
  rw [Action.runOn_create_of_absent absent]
  exact save_mirrors writable back

theorem runOn_addAll_cons (e : String × Rule) (rest : List (String × Rule)) (s : Store) :
    (addAll path (e :: rest)).runOn s =
      (Action.addRule path e.1 e.2 >>= fun _ => addAll path rest).runOn s := rfl

theorem addAll_usable (added : (addAll path adds).runOn s = (.ok (), s')) :
    ∀ e ∈ adds, e.2.compile.isOk = true := by
  induction adds generalizing s with
  | nil => simp
  | cons e rest ih =>
    rw [runOn_addAll_cons, Action.runOn_bind] at added
    rw [List.forall_mem_cons]
    cases compiled : e.2.compile with
    | error reason =>
      simp only [Action.addRule, compiled, Action.runOn_throw] at added
      cases added
    | ok _ =>
      refine ⟨rfl, ?_⟩
      split at added
      · exact ih added
      · cases added

theorem addAll_mirrors (mirrors : Mirrors path s c) (usable : ∀ e ∈ adds, e.2.compile.isOk = true)
    (back : ∀ done, done <+: adds → (formatFor path).readsBack (c.addEach done).toValue = true) :
    ∃ s', (addAll path adds).runOn s = (.ok (), s') ∧ Mirrors path s' (c.addEach adds) := by
  induction adds generalizing s c with
  | nil => exact ⟨s, rfl, mirrors⟩
  | cons e rest ih =>
    obtain ⟨first, others⟩ := List.forall_mem_cons.mp usable
    obtain ⟨s₁, saved, mirrors₁⟩ := save_mirrors mirrors.writable (back [e] ⟨rest, rfl⟩)
    obtain ⟨s', added, after⟩ := ih mirrors₁ others fun done through =>
      back (e :: done) (List.cons_prefix_cons.mpr ⟨rfl, through⟩)
    have ran : (Action.addRule path e.1 e.2).runOn s = (.ok (), s₁) := by
      rw [addRule_eq mirrors.loads, Step.apply, Action.runOn_bind, Action.runOn_ofExcept]
      cases compiled : e.2.compile with
      | error reason =>
        rw [compiled] at first
        cases first
      | ok _ => exact saved
    refine ⟨s', ?_, after⟩
    rw [runOn_addAll_cons, Action.runOn_bind, ran]
    exact added

/-- Where rules are added to the configuration that was written first, and none of them is refused, the file
holds that configuration with all of these rules. Only clashes can be wrong with it, and none is just when
the rules of every language combine: unless a pattern switches the verbose flag on, just when all groups
have names of their own and the patterns keep the limits together. -/
theorem addAll_only_clashes {s₁ s₂ : Store} (absent : s.holds path = false)
    (created : (Action.create path).runOn s = (.ok (), s₁))
    (added : (addAll path adds).runOn s₁ = (.ok (), s₂))
    (back : ∀ done, done <+: adds →
      (formatFor path).readsBack (Config.initial.addEach done).toValue = true) :
    ∃ c, load s₂ path = .ok c ∧ c = Config.initial.addEach adds ∧
      (∀ problem ∈ (Validation.ofConfig c).problems, ∃ language position reason,
        problem = .unusableRule language position (.masterConflict reason)) ∧
      ((Validation.ofConfig c).problems = [] ↔
        ∀ e ∈ c.rules.entries, Master.Combine (Rule.usable e.2)) ∧
      ((∀ e ∈ adds, e.2.VerboseFree) → ((Validation.ofConfig c).problems = [] ↔
        ∀ e ∈ c.rules.entries, Pattern.Joins ((Candidate.ofRules (Rule.usable e.2)).map Candidate.entry))) := by
  have writable : s.Writable path := by
    have written := Action.write?_of_save ((Action.runOn_create_of_absent absent).symm.trans created)
    exact Store.writable_of_isSome (by rw [written]; rfl)
  obtain ⟨s₁', created', mirrors⟩ := create_mirrors absent writable (back [] (List.nil_prefix ..))
  cases created'.symm.trans created
  have each := addAll_usable added
  obtain ⟨s₂', added', after⟩ := addAll_mirrors mirrors each back
  cases added'.symm.trans added
  have version := Config.version_addEach Config.initial adds
  have usable := Config.initial_usable.addEach each
  exact ⟨_, after.loads, rfl, fun _ => Validation.problems_clash version usable,
    Validation.problems_eq_nil_iff_combine version usable,
    fun free => Validation.problems_eq_nil_iff_joins version usable (Config.initial_verboseFree.addEach free)⟩

def unvisited : Store := { base := "/w" }

/-- Two markers that name their groups apart, and two that name them alike. -/
def namedApart : String × Rule := ("c", .ofPatterns "(?P<x>a)" "(?P<y>b)")

def namedAlike : String × Rule := ("c", .ofPatterns "(?P<x>a)" "(?P<x>b)")

set_option maxRecDepth 100000 in
theorem unvisited_adds {e : String × Rule} (usable : e.2.compile.isOk = true)
    (one : Dialect.toml.readsBack (Config.initial.addEach [e]).toValue = true) :
    unvisited.holds "c" = false ∧
      (∀ done, done <+: [e] → (formatFor "c").readsBack (Config.initial.addEach done).toValue = true) ∧
      ∃ s₁ s₂, (Action.create "c").runOn unvisited = (.ok (), s₁) ∧ (addAll "c" [e]).runOn s₁ = (.ok (), s₂) ∧
        Mirrors "c" s₂ (Config.initial.addEach [e]) := by
  have absent : unvisited.holds "c" = false := by decide +kernel
  have writable : unvisited.Writable "c" := by
    have written : (unvisited.write? "c" none).isSome := by decide +kernel
    exact Store.writable_of_isSome written
  have toml : formatFor "c" = .toml := by decide +kernel
  have initially : Dialect.toml.readsBack Config.initial.toValue = true := Config.initial_readsBack .toml
  have back : ∀ done, done <+: [e] →
      (formatFor "c").readsBack (Config.initial.addEach done).toValue = true := by
    rw [toml]
    intro done through
    rcases List.prefix_cons_iff.mp through with rfl | ⟨rest, rfl, nothing⟩
    · exact initially
    · cases List.prefix_nil.mp nothing
      exact one
  obtain ⟨s₁, created, mirrors⟩ := create_mirrors absent writable (toml ▸ initially)
  obtain ⟨s₂, added, after⟩ := addAll_mirrors mirrors (by simpa using usable) back
  exact ⟨absent, back, s₁, s₂, created, added, after⟩

set_option maxRecDepth 100000 in
theorem addAll_only_clashes_apart :
    unvisited.holds "c" = false ∧ namedApart.2.VerboseFree ∧
      (∀ done, done <+: [namedApart] →
        (formatFor "c").readsBack (Config.initial.addEach done).toValue = true) ∧
      ∃ s₁ s₂ c, (Action.create "c").runOn unvisited = (.ok (), s₁) ∧
        (addAll "c" [namedApart]).runOn s₁ = (.ok (), s₂) ∧ load s₂ "c" = .ok c ∧
        (Validation.ofConfig c).problems = [] := by
  have one : Dialect.toml.readsBack (Config.initial.addEach [namedApart]).toValue = true :=
    Dialect.readsBack_of_bytes (by decide +kernel) (by decide +kernel)
  obtain ⟨absent, back, s₁, s₂, created, added, -⟩ := unvisited_adds (by decide +kernel) one
  have free : namedApart.2.VerboseFree := by decide +kernel
  have join : ∀ e ∈ (Config.initial.addEach [namedApart]).rules.entries,
      Pattern.Joins ((Candidate.ofRules (Rule.usable e.2)).map Candidate.entry) := by decide +kernel
  obtain ⟨c, loads, rfl, -, -, clashes⟩ := addAll_only_clashes absent created added back
  exact ⟨absent, free, back, s₁, s₂, _, created, added, loads, (clashes (by simpa using free)).mpr join⟩

set_option maxRecDepth 100000 in
/-- A rule is added that cannot be used, since its own markers clash. -/
theorem addAll_clashes :
    ∃ s₁ s₂ c, unvisited.holds "c" = false ∧ (Action.create "c").runOn unvisited = (.ok (), s₁) ∧
      (addAll "c" [namedAlike]).runOn s₁ = (.ok (), s₂) ∧ load s₂ "c" = .ok c ∧
      (Validation.ofConfig c).problems ≠ [] := by
  have one : Dialect.toml.readsBack (Config.initial.addEach [namedAlike]).toValue = true :=
    Dialect.readsBack_of_bytes (by decide +kernel) (by decide +kernel)
  obtain ⟨absent, -, s₁, s₂, created, added, mirrors⟩ := unvisited_adds (by decide +kernel) one
  have wrong : (Validation.ofConfig (Config.initial.addEach [namedAlike])).problems ≠ [] := by decide +kernel
  exact ⟨s₁, s₂, _, absent, created, added, mirrors.loads, wrong⟩

end ConfigFile

end Foldmark
