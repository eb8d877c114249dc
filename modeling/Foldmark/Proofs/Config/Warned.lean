import Foldmark.Config.Validation
import Foldmark.Proofs.Rule.Ignored
import Foldmark.Proofs.Text.Splitting

/-! Warnings about opening markers. A rule that opens blocks is used only if its opening marker does not match the empty
text. So where the opening marker matches every line, the only rules that are used are separators, which do not read
it: those are the rules that the warning is given for. What is given is a message, and the message of a warning tells
which one it is. -/
namespace Foldmark

namespace Rule

variable {r : Rule} {c : CompiledRule} {role : Role} {source : String} {p : Pattern}

theorem everything_matchesEmpty (compiled : Pattern.compile ".*" = .ok p) : p.matchesEmpty = true := by
  obtain ⟨-, flags, read, means, -⟩ := Pattern.compile_cases compiled
  have parsed : Pattern.parse ".*".toList = .ok (.repetition .dot 0 none true) := by cbv
  have tree := Except.ok.inj (read.symm.trans parsed)
  have settled : Pattern.nodeOf {} (.repetition .dot 0 none true) =
      .ok (.loop (.set (CharSet.ofString "\n").complement) 0 none true, {}) := rfl
  rw [tree, settled] at means
  have node := (Prod.mk.inj (Except.ok.inj means)).1
  have starred (s : CharSet) : (Pattern.Node.loop (.set s) 0 none true).search #[] 0 = some ⟨0, 0, []⟩ := rfl
  rw [Pattern.matchesEmpty, Pattern.matches?, ← node, starred]
  rfl

theorem compileMarker_everything (role : Role) (p : Pattern) : compileMarker role ".*" ≠ .ok p := by
  intro compiled
  have occupied := compileMarker_occupied compiled
  rw [everything_matchesEmpty (compileMarker_eq compiled)] at occupied
  cases occupied

/-- A rule whose opening marker matches every line is used as a separator only: the other shapes compile the marker. -/
theorem separator_of_everything (compiled : r.compile = .ok c) (everything : r.opening.source? = some ".*") :
    r.shape? = some .separator ∧ c.roles = [.separator] := by
  obtain ⟨matchers, -⟩ := compile_cases compiled
  cases shaped : r.shape? with
  | none => simp [compileMatchers, shaped, throw, throwThe, MonadExceptOf.throw] at matchers
  | some shape =>
    rcases shape?_cases shaped with ⟨rfl, -⟩ | ⟨rfl, _, last, -, -, closing⟩ | ⟨rfl, _, suffix, -, -, continuation⟩ |
      ⟨rfl, source, separator, -⟩
    · simp only [compileMatchers, shaped, everything] at matchers
      obtain ⟨p, marker, -⟩ := ok_of_bind matchers
      exact absurd marker (compileMarker_everything .docstring p)
    · simp only [compileMatchers, shaped, everything, closing] at matchers
      obtain ⟨p, marker, -⟩ := ok_of_bind matchers
      exact absurd marker (compileMarker_everything .opening p)
    · simp only [compileMatchers, shaped, everything, continuation] at matchers
      obtain ⟨_, -, matchers⟩ := ok_of_bind matchers
      obtain ⟨p, marker, -⟩ := ok_of_bind matchers
      exact absurd marker (compileMarker_everything .opening p)
    · simp only [compileMatchers, shaped, separator] at matchers
      obtain ⟨p, -, matchers⟩ := ok_of_bind matchers
      have own := Except.ok.inj matchers
      exact ⟨rfl, by simp [CompiledRule.roles, CompiledRule.alternatives, ← own]⟩

end Rule

theorem Role.tag_inj {role role' : Role} (same : role.tag = role'.tag) : role = role' :=
  Option.some.inj (by rw [← ofTag?_tag, same, ofTag?_tag])

theorem Shape.name_inj {shape shape' : Shape} (same : shape.name = shape'.name) : shape = shape' := by
  cases shape <;> cases shape' <;> first | rfl | exact absurd same (by decide)

namespace Warning

variable {language : String} {position position' : Nat} {role role' : Role} {shape shape' : Shape} {w w' : Warning}

inductive Concerns (language : String) : Warning → Prop
  | noRules : Concerns language (.noRules language)
  | ignoredMarker (position : Nat) (role : Role) (shape : Shape) :
    Concerns language (.ignoredMarker language position role shape)
  | opensEverywhere (position : Nat) : Concerns language (.opensEverywhere language position)

/-- A remark about a rule, behind its language and its position. -/
def numbered (language : String) (position : Nat) (remark : String) : String :=
  "[" ++ language ++ "] rule #" ++ position.repr ++ ":" ++ remark

def ignoredRemark (role : Role) (shape : Shape) : String :=
  " '" ++ role.tag ++ "' is ignored by a " ++ shape.name ++ " rule"

theorem numbered_eq {remark text : String} (joined : ":" ++ remark = text) :
    numbered language position remark = s!"[{language}] rule #{position}" ++ text := by
  rw [← joined, ← String.append_assoc]
  rfl

theorem message_ignoredMarker : (ignoredMarker language position role shape).message =
    numbered language position (ignoredRemark role shape) := by
  have joined : ":" ++ " '" = ": '" := rfl
  have message : (ignoredMarker language position role shape).message = "[" ++ language ++ "] rule #" ++
    position.repr ++ ": '" ++ role.tag ++ "' is ignored by a " ++ shape.name ++ " rule" := rfl
  simp only [message, ← joined, numbered, ignoredRemark, String.append_assoc]

theorem message_opensEverywhere : (opensEverywhere language position).message =
    numbered language position " begin pattern '.*' opens a block on every line" := by
  have joined : ":" ++ " begin pattern '.*' opens a block on every line" =
    ": begin pattern '.*' opens a block on every line" := rfl
  rw [numbered_eq joined]
  rfl

theorem numbered_inj {remark remark' : String}
    (same : numbered language position remark = numbered language position' remark') :
    position = position' ∧ remark = remark' := by
  have plain (n : Nat) : ':' ∉ Nat.toDigits 10 n := fun member =>
    absurd (Nat.isDigit_of_mem_toDigits (by decide) (by decide) member) (by decide)
  have colon : ":".toList = [':'] := rfl
  have chars := congrArg String.toList same
  simp only [numbered, String.toList_append, Nat.toList_repr, List.append_assoc, List.append_cancel_left_eq, colon,
    List.singleton_append] at chars
  obtain ⟨digits, behind⟩ := front_behind (plain position) (plain position') chars
  have number : position = position' := by
    simpa only [Nat.ofDigitChars_ten_toDigits] using congrArg (Nat.ofDigitChars 10 · 0) digits
  exact ⟨number, String.toList_inj.mp behind⟩

theorem numbered_ne_noRules (remark : String) : numbered language position remark ≠ (noRules language).message := by
  intro same
  have chars : ("[" ++ language ++ "] rule #" ++ position.repr ++ ":" ++ remark).toList =
    ("[" ++ language ++ "] no rules configured").toList := congrArg String.toList same
  simp only [String.toList_append, List.append_assoc, List.append_cancel_left_eq] at chars
  cases chars

theorem ignoredRemark_inj (same : ignoredRemark role shape = ignoredRemark role' shape') :
    role = role' ∧ shape = shape' := by
  have plain (role : Role) : '\'' ∉ role.tag.toList := by cases role <;> decide
  have quote : "' is ignored by a ".toList = '\'' :: " is ignored by a ".toList := by decide
  have chars := congrArg String.toList same
  simp only [ignoredRemark, String.toList_append, List.append_assoc, List.append_cancel_left_eq, quote,
    List.cons_append] at chars
  obtain ⟨tags, behind⟩ := front_behind (plain role) (plain role') chars
  simp only [List.append_cancel_left_eq, List.append_cancel_right_eq] at behind
  exact ⟨Role.tag_inj (String.toList_inj.mp tags), Shape.name_inj (String.toList_inj.mp behind)⟩

theorem ignoredRemark_ne (role : Role) (shape : Shape) :
    ignoredRemark role shape ≠ " begin pattern '.*' opens a block on every line" := by
  intro same
  have chars := congrArg String.toList same
  simp only [ignoredRemark, String.toList_append, List.append_assoc] at chars
  cases chars

theorem message_inj (own : Concerns language w) (own' : Concerns language w') (same : w.message = w'.message) :
    w = w' := by
  cases own with
  | noRules =>
    cases own' with
    | noRules => rfl
    | ignoredMarker =>
      rw [message_ignoredMarker] at same
      exact absurd same.symm (numbered_ne_noRules _)
    | opensEverywhere =>
      rw [message_opensEverywhere] at same
      exact absurd same.symm (numbered_ne_noRules _)
  | ignoredMarker position role shape =>
    rw [message_ignoredMarker] at same
    cases own' with
    | noRules => exact absurd same (numbered_ne_noRules _)
    | ignoredMarker position' role' shape' =>
      rw [message_ignoredMarker] at same
      obtain ⟨rfl, remark⟩ := numbered_inj same
      obtain ⟨rfl, rfl⟩ := ignoredRemark_inj remark
      rfl
    | opensEverywhere =>
      rw [message_opensEverywhere] at same
      exact absurd (numbered_inj same).2 (ignoredRemark_ne _ _)
  | opensEverywhere position =>
    rw [message_opensEverywhere] at same
    cases own' with
    | noRules => exact absurd same (numbered_ne_noRules _)
    | ignoredMarker =>
      rw [message_ignoredMarker] at same
      exact absurd (numbered_inj same).2.symm (ignoredRemark_ne _ _)
    | opensEverywhere =>
      rw [message_opensEverywhere] at same
      obtain ⟨rfl, -⟩ := numbered_inj same
      rfl
end Warning

namespace Validation

variable {language : String} {rules : List Rule} {position : Nat} {r : Rule} {w : Warning}

theorem mem_ofRule : w ∈ ofRule language position r ↔
    (∃ shape role, r.shape? = some shape ∧ role ∈ r.ignored ∧ w = .ignoredMarker language position role shape) ∨
    (r.compile.isOk = true ∧ r.opening.source? = some ".*" ∧ w = .opensEverywhere language position) := by
  rw [ofRule, List.mem_append]
  refine or_congr ?_ ?_
  · cases r.shape? with
    | none => simp
    | some shape => simp [eq_comm]
  · split
    · rename_i opens
      simp only [Bool.and_eq_true, decide_eq_true_eq] at opens
      simp [opens]
    · rename_i opens
      simp only [Bool.and_eq_true, decide_eq_true_eq] at opens
      simp only [List.not_mem_nil, false_iff]
      exact fun ⟨compiles, everything, _⟩ => opens ⟨compiles, everything⟩

theorem mem_ofRules : w ∈ (ofRules language rules).warnings ↔
    (rules = [] ∧ w = .noRules language) ∨
      ∃ position r, rules[position]? = some r ∧ w ∈ ofRule language position r := by
  cases rules with
  | nil => simp [ofRules]
  | cons first rest =>
    simp only [ofRules, List.isEmpty_cons, Bool.false_eq_true, if_false, List.mem_flatten, List.mem_mapIdx]
    constructor
    · rintro ⟨_, ⟨position, inside, rfl⟩, member⟩
      exact .inr ⟨position, _, List.getElem?_eq_getElem inside, member⟩
    · rintro (⟨nothing, -⟩ | ⟨position, r, here, member⟩)
      · cases nothing
      · obtain ⟨inside, rfl⟩ := List.getElem?_eq_some_iff.mp here
        exact ⟨_, ⟨position, inside, rfl⟩, member⟩

theorem concerns_of_mem (member : w ∈ (ofRules language rules).warnings) : w.Concerns language := by
  rcases mem_ofRules.mp member with ⟨-, rfl⟩ | ⟨position, r, -, own⟩
  · exact .noRules
  · rcases mem_ofRule.mp own with ⟨shape, role, -, -, rfl⟩ | ⟨-, -, rfl⟩
    · exact .ignoredMarker position role shape
    · exact .opensEverywhere position

theorem opensEverywhere_mem_iff : .opensEverywhere language position ∈ (ofRules language rules).warnings ↔
    ∃ r c, rules[position]? = some r ∧ r.compile = .ok c ∧ r.opening.source? = some ".*" := by
  rw [mem_ofRules]
  constructor
  · rintro (⟨-, same⟩ | ⟨position', r, here, own⟩)
    · cases same
    · rcases mem_ofRule.mp own with ⟨shape, role, -, -, same⟩ | ⟨compiles, everything, same⟩
      · cases same
      · cases same
        cases compiled : r.compile with
        | error reason => simp [compiled, Except.isOk, Except.toBool] at compiles
        | ok c => exact ⟨r, c, here, compiled, everything⟩
  · rintro ⟨r, c, here, compiled, everything⟩
    exact .inr ⟨position, r, here, mem_ofRule.mpr (.inr ⟨by rw [compiled]; rfl, everything, rfl⟩)⟩

theorem ignoredMarker_mem (here : rules[position]? = some r) (shaped : r.shape? = some .separator)
    (declared : r.Declares .opening) :
    .ignoredMarker language position .opening .separator ∈ (ofRules language rules).warnings := by
  have ignored : .opening ∈ r.ignored := (Rule.mem_ignored_iff shaped).mpr ⟨declared, by decide, by decide⟩
  exact mem_ofRules.mpr (.inr ⟨position, r, here, mem_ofRule.mpr (.inl ⟨.separator, .opening, shaped, ignored, rfl⟩)⟩)

theorem message_mem_iff (concerns : w.Concerns language) :
    w.message ∈ (ofRules language rules).warnings.map Warning.message ↔ w ∈ (ofRules language rules).warnings := by
  refine ⟨fun member => ?_, List.mem_map_of_mem⟩
  obtain ⟨w', member', same⟩ := List.mem_map.mp member
  exact Warning.message_inj (concerns_of_mem member') concerns same ▸ member'

/-- The warning that a rule opens a block on every line is given just for the rules that are used and whose opening
marker is the pattern for all of a line. They are separators: no other marker of theirs is looked for, and the
warnings say as well that the opening marker is ignored. -/
theorem opensEverywhere_iff (language : String) (rules : List Rule) (position : Nat) :
    s!"[{language}] rule #{position}: begin pattern '.*' opens a block on every line" ∈
        (ofRules language rules).warnings.map Warning.message ↔
      ∃ r c, rules[position]? = some r ∧ r.compile = .ok c ∧ r.opening.source? = some ".*" ∧
        c.roles = [.separator] ∧
        s!"[{language}] rule #{position}: 'begin' is ignored by a separator rule" ∈
          (ofRules language rules).warnings.map Warning.message := by
  have warned : s!"[{language}] rule #{position}: begin pattern '.*' opens a block on every line" ∈
      (ofRules language rules).warnings.map Warning.message ↔
        .opensEverywhere language position ∈ (ofRules language rules).warnings :=
    message_mem_iff (.opensEverywhere position)
  constructor
  · intro member
    obtain ⟨r, c, here, compiled, everything⟩ := opensEverywhere_mem_iff.mp (warned.mp member)
    obtain ⟨shaped, roles⟩ := Rule.separator_of_everything compiled everything
    have declared : r.Declares .opening := Option.isSome_of_eq_some everything
    have ignored : Warning.ignoredMarker language position .opening .separator ∈ (ofRules language rules).warnings :=
      ignoredMarker_mem here shaped declared
    refine ⟨r, c, here, compiled, everything, roles, List.mem_map.mpr ⟨_, ignored, ?_⟩⟩
    rw [Warning.message_ignoredMarker]
    exact Warning.numbered_eq rfl
  · rintro ⟨r, c, here, compiled, everything, -⟩
    exact warned.mpr (opensEverywhere_mem_iff.mpr ⟨r, c, here, compiled, everything⟩)

/-- A separator with an opening marker that matches every line. -/
def dividerRule : Rule := { opening := { regex := some ".*" }, separator := { text := some "---" } }

set_option maxRecDepth 100000 in
/-- It is warned about, but it opens no block, and the other warning says that the opening marker is ignored. -/
theorem opensEverywhere_of_divider :
    "[*] rule #0: begin pattern '.*' opens a block on every line" ∈
        (ofRules "*" [dividerRule]).warnings.map Warning.message ∧
      "[*] rule #0: 'begin' is ignored by a separator rule" ∈
        (ofRules "*" [dividerRule]).warnings.map Warning.message ∧
      ∃ c, dividerRule.compile = .ok c ∧ .opening ∉ c.roles ∧ .docstring ∉ c.roles := by
  refine ⟨by decide +kernel, by decide +kernel, ?_⟩
  have compiles : dividerRule.compile.isOk = true := by decide +kernel
  cases compiled : dividerRule.compile with
  | error reason =>
    rw [compiled] at compiles
    cases compiles
  | ok c =>
    obtain ⟨-, roles⟩ := Rule.separator_of_everything compiled rfl
    exact ⟨c, rfl, by rw [roles]; decide⟩

end Validation

end Foldmark
