import Foldmark.Proofs.Fold.Isolated
import Foldmark.Proofs.Fold.Joined

/-! Where ranges come from. An `Event` is a marker that a scan comes to. Every range belongs to a rule of its
kind and can be traced to two of them: one at which its block began, and one at which it came out, unless
the end of a line or of the document did that. -/
namespace Foldmark

namespace Role

/-- Whether a block, or the next part of one, begins at a marker. -/
def begins : Role → Bool
  | .opening | .middle | .docstring | .separator => true
  | .closing | .continuation => false

def ends : Role → Bool
  | .closing | .middle | .docstring | .separator => true
  | .opening | .continuation => false

end Role

namespace Fold

/-- A marker of a rule on a line, and the states before and after it. -/
structure Event where
  line : Nat
  role : Role
  rule : Nat
  before : State
  after : State

/-- The marker that is found next, by its role and its rule. -/
inductive Finds (g : Grammar) (text : Line) (s : State) (place : Nat) : Role → Nat → Prop where
  | anywhere (found : MarkerMatch) : s.mode = .normal → g.master.findAt text place = some found →
      Finds g text s place found.role found.rule
  | inside (rule : Nat) (r : CompiledRule) (found : UnnestedMatch) : s.mode = .unnested rule →
      g.rules[rule]? = some r → r.findUnnested text place = some found →
      Finds g text s place found.role rule

inductive Happens (g : Grammar) (document : Document) : Event → Prop where
  | marker {line place further : Nat} {text : Line} {s next : State} {role : Role} {rule : Nat} :
      document[line]? = some text → Reaches g document line place s → place ≤ text.size →
      step g line text s place = some (next, further) → Finds g text s place role rule →
      Happens g document ⟨line, role, rule, s, next⟩

namespace Event

def Emits (e : Event) (range : Range) : Prop :=
  ∃ new, e.after.ranges = new ++ e.before.ranges ∧ range ∈ new

/-- A block of a rule, or its next part, begins on a line with the marker. -/
def Begins (e : Event) (rule line : Nat) : Prop :=
  e.role.begins = true ∧ e.rule = rule ∧ e.line = line ∧
    ∃ b ∈ e.after.stack.head?, b.rule = rule ∧ b.start = line

/-- The marker ends what a rule left: it is one of the rule, or one that ends the block around a section of
the rule. -/
inductive Ends (e : Event) (range : Range) (rule : Nat) (r : CompiledRule) : Prop where
  | own : e.role.ends = true → e.rule = rule → Ends e range rule r
  | around (b owner : Block) : r.shape = .separator →
      e.role = .closing ∨ e.role = .middle ∨ e.role = .docstring →
      e.before.owner? e.rule = some owner → b ∈ e.before.stack.takeWhile (·.isSection) →
      b.rule = rule → b.start = range.start → Ends e range rule r

end Event

/-- Why a range of a rule begins where it does. What is in front of the first section of a block begins
with the block, and only the separator behind it tells its rule. -/
inductive Begun (g : Grammar) (document : Document) (range : Range) (rule : Nat) (r : CompiledRule) :
    Prop where
  | marker (e : Event) : Happens g document e → e.Begins rule range.start →
      Begun g document range rule r
  | leading (e : Event) : Happens g document e → r.shape = .separator → e.role = .separator →
      e.rule = rule → e.line = range.stop + 1 → e.Emits range → Begun g document range rule r

inductive Ended (g : Grammar) (document : Document) (range : Range) (rule : Nat) (r : CompiledRule) :
    Prop where
  | marker (e : Event) : Happens g document e → e.line = range.stop ∨ e.line = range.stop + 1 →
      e.Emits range → e.Ends range rule r → Ended g document range rule r
  | chain : r.isContinuation = true → Ended g document range rule r
  | lastLine : r.shape = .separator → range.stop + 1 = document.length →
      Ended g document range rule r

/-- A range of a rule that has the kind of the rule, and of which both ends have a reason. -/
structure Traced (g : Grammar) (document : Document) (range : Range) (rule : Nat) (r : CompiledRule) :
    Prop where
  known : g.rules[rule]? = some r
  kind : range.kind = r.kind
  begun : Begun g document range rule r
  ended : Ended g document range rule r

variable {g : Grammar} {document : Document} {line place rule : Nat} {text : Line}
  {s next : State} {b : Block} {r : CompiledRule} {new : List Range} {range : Range} {e : Event}

/-- A range that comes out is that of its rule and first line, and ends with the line or in front of it. -/
theorem Leaves.mem {start : Nat} (leaves : Leaves g line rule start new) (member : range ∈ new) :
    range.start = start ∧ (line = range.stop ∨ line = range.stop + 1) ∧ range.kind = g.kind rule := by
  rcases leaves with rfl | ⟨one, rfl, begins, ends, kind⟩
  · simp at member
  · rw [List.mem_singleton] at member
    subst member
    exact ⟨begins, ends.2.imp Eq.symm Eq.symm, kind⟩

theorem Grammar.kind_eq (known : g.rules[rule]? = some r) : g.kind rule = r.kind := by
  simp [Grammar.kind, known]

/-- Every open block has begun with a marker of its rule, and every range can be traced. -/
structure Rooted (g : Grammar) (document : Document) (s : State) : Prop where
  blocks : ∀ b ∈ s.stack, ∃ e, Happens g document e ∧ e.Begins b.rule b.start
  ranges : ∀ range ∈ s.ranges, ∃ rule r, Traced g document range rule r

namespace Rooted

theorem start : Rooted g document .start := by
  constructor <;> simp [State.start]

theorem traced (rooted : Rooted g document s) (isOpen : b ∈ s.stack)
    (known : g.rules[b.rule]? = some r) (leaves : Leaves g line b.rule b.start new)
    (member : range ∈ new) (ended : Ended g document range b.rule r) :
    Traced g document range b.rule r := by
  obtain ⟨begins, -, kind⟩ := leaves.mem member
  obtain ⟨e, happens, blockBegins⟩ := rooted.blocks b isOpen
  exact ⟨known, kind.trans (Grammar.kind_eq known), .marker e happens (begins ▸ blockBegins), ended⟩

theorem shrink (rooted : Rooted g document s)
    (blocks : ∀ b ∈ next.stack, ∃ old ∈ s.stack, old.rule = b.rule ∧ old.start = b.start)
    (same : next.ranges = s.ranges) : Rooted g document next := by
  constructor
  · intro b isOpen
    obtain ⟨old, wasOpen, sameRule, sameStart⟩ := blocks b isOpen
    exact sameRule ▸ sameStart ▸ rooted.blocks old wasOpen
  · exact same ▸ rooted.ranges

/-- A marker keeps its scan rooted if each block that it leaves open is an old one or begins with it, and each
range that comes out is traced. -/
theorem event (rooted : Rooted g document e.before) (happens : Happens g document e)
    (blocks : ∀ b ∈ e.after.stack, b ∈ e.before.stack ∨ e.Begins b.rule b.start)
    (emitted : e.after.ranges = new ++ e.before.ranges)
    (ranges : ∀ range ∈ new, e.Emits range → ∃ rule r, Traced g document range rule r) :
    Rooted g document e.after := by
  constructor
  · intro b isOpen
    rcases blocks b isOpen with old | fresh
    · exact rooted.blocks b old
    · exact ⟨e, happens, fresh⟩
  · intro range member
    rw [emitted] at member
    rcases List.mem_append.mp member with comesOut | old
    · exact ranges range comesOut ⟨new, emitted, comesOut⟩
    · exact rooted.ranges range old

theorem quiet (rooted : Rooted g document e.before) (happens : Happens g document e)
    (blocks : ∀ b ∈ e.after.stack, b ∈ e.before.stack ∨ e.Begins b.rule b.start)
    (same : e.after.ranges = e.before.ranges) : Rooted g document e.after :=
  rooted.event happens blocks (same.trans (List.nil_append _).symm) (by simp)

end Rooted

theorem Event.begins_cons {below : List Block} (begins : e.role.begins = true)
    (stack : e.after.stack = b :: below) (sameRule : b.rule = e.rule) (fresh : b.start = e.line)
    (old : below ⊆ e.before.stack) :
    ∀ c ∈ e.after.stack, c ∈ e.before.stack ∨ e.Begins c.rule c.start := by
  intro c isOpen
  rw [stack] at isOpen
  rcases List.mem_cons.mp isOpen with rfl | under
  · exact .inr ⟨begins, sameRule.symm, fresh.symm, c, by simp [stack], rfl, rfl⟩
  · exact .inl (old under)

theorem Rooted.ended_traced {owner : Block} (rooted : Rooted g document e.before)
    (happens : Happens g document e) (stacked : Stacked g e.line e.before.stack)
    (shaped : Shaped g e.before) (owned : e.before.owner? e.rule = some owner)
    (role : e.role = .closing ∨ e.role = .middle ∨ e.role = .docstring)
    (leaves : Leaves g e.line owner.rule owner.start new) :
    ∀ range ∈ new.reverse ++ ((e.before.stack.takeWhile (·.isSection)).flatMap fun b =>
        g.before b.rule b.start e.line).reverse,
      e.Emits range → ∃ rule r, Traced g document range rule r := by
  intro range member emits
  obtain ⟨sameRule, below, inner⟩ := @State.owner?_eq_some g e.line _ _ _ owned
  have outer : owner :: below <:+ e.before.stack := inner ▸ List.dropWhile_suffix _
  rcases List.mem_append.mp member with own | ofSection
  · have isOpen : owner ∈ e.before.stack := outer.subset List.mem_cons_self
    have known := List.getElem?_eq_getElem (stacked.known owner isOpen)
    rw [List.mem_reverse] at own
    refine ⟨_, _, rooted.traced isOpen known leaves own ?_⟩
    apply Ended.marker e happens (leaves.mem own).2.1 emits
    refine .own ?_ sameRule.symm
    rcases role with closing | middle | docstring
    · simp [closing, Role.ends]
    · simp [middle, Role.ends]
    · simp [docstring, Role.ends]
  · rw [List.mem_reverse] at ofSection
    obtain ⟨b, inside, left⟩ := List.mem_flatMap.mp ofSection
    have isOpen : b ∈ e.before.stack := (List.takeWhile_sublist _).subset inside
    have isSection : b.isSection = true := List.all_eq_true.mp List.all_takeWhile b inside
    have known := List.getElem?_eq_getElem (stacked.known b isOpen)
    have leaves := before_leaves g b.rule b.start e.line
    have shape := ((shaped.fits b isOpen _ known).1.mp isSection)
    refine ⟨_, _, rooted.traced isOpen known leaves left ?_⟩
    apply Ended.marker e happens (leaves.mem left).2.1 emits
    exact .around b owner shape role owned inside rfl (leaves.mem left).1.symm

theorem Move.rooted {found : MarkerMatch} {resume : Option Nat}
    (move : Move g line text s found next resume)
    (happens : Happens g document ⟨line, found.role, found.rule, s, next⟩)
    (stacked : Stacked g line s.stack) (shaped : Shaped g s)
    (fitting : ∃ r, g.rules[found.rule]? = some r ∧ found.role ∈ r.roles)
    (rooted : Rooted g document s) : Rooted g document next := by
  obtain ⟨own, ownKnown, ownRole⟩ := fitting
  cases move with
  | pass => exact rooted
  | pair r expected role =>
    apply rooted.quiet happens _ rfl
    exact Event.begins_cons (by simp [role, Role.begins]) rfl rfl rfl (List.Subset.refl _)
  | chain r role =>
    apply rooted.quiet happens _ rfl
    exact Event.begins_cons (by simp [role, Role.begins]) rfl rfl rfl (List.Subset.refl _)
  | docstring role =>
    apply rooted.quiet happens _ rfl
    exact Event.begins_cons (by simp [role, Role.begins]) rfl rfl rfl (List.Subset.refl _)
  | «section» role =>
    have shape := (CompiledRule.separator_mem_roles own).mp (role ▸ ownRole)
    refine rooted.event happens ?_ rfl fun range member emits => ?_
    · exact Event.begins_cons (by simp [role, Role.begins]) rfl rfl rfl (List.Subset.refl _)
    · rw [List.mem_reverse] at member
      have leaves := before_leaves g found.rule s.leading line
      have behind := before_stop range member
      refine ⟨found.rule, own, ownKnown, ?_, ?_, ?_⟩
      · exact (leaves.mem member).2.2.trans (Grammar.kind_eq ownKnown)
      · exact .leading _ happens shape role rfl behind.symm emits
      · exact .marker _ happens (leaves.mem member).2.1 emits (.own (by simp [role, Role.ends]) rfl)
  | nextSection top below role stack sameRule =>
    have isOpen : top ∈ s.stack := by simp [stack]
    have known := List.getElem?_eq_getElem (stacked.known top isOpen)
    have leaves := before_leaves g top.rule top.start line
    have divided : s.splitTop g line = _ := State.splitTop_cons stack
    refine rooted.event happens ?_ (congrArg State.ranges divided) fun range member emits => ?_
    · refine Event.begins_cons (by simp [role, Role.begins]) (congrArg State.stack divided)
        sameRule rfl ?_
      simp [stack]
    · rw [List.mem_reverse] at member
      refine ⟨_, _, rooted.traced isOpen known leaves member ?_⟩
      exact .marker _ happens (leaves.mem member).2.1 emits
        (.own (by simp [role, Role.ends]) sameRule.symm)
  | split owner role owned =>
    obtain ⟨sameRule, below, inner⟩ := @State.owner?_eq_some g line _ _ _ owned
    have outer : owner :: below <:+ s.stack := inner ▸ List.dropWhile_suffix _
    have divided : (s.endSections g line).splitTop g line = _ := State.splitTop_cons inner
    refine rooted.event happens ?_ ?_ (rooted.ended_traced happens stacked shaped owned
      (.inr (.inl role)) (before_leaves g owner.rule owner.start line))
    · exact Event.begins_cons (by simp [role, Role.begins]) (congrArg State.stack divided)
        sameRule rfl (List.Subset.trans (List.subset_cons_self _ _) outer.subset)
    · rw [List.append_assoc]
      exact congrArg State.ranges divided
  | close owner resume owned role =>
    obtain ⟨-, below, inner⟩ := @State.owner?_eq_some g line _ _ _ owned
    have outer : owner :: below <:+ s.stack := inner ▸ List.dropWhile_suffix _
    have closed : (s.endSections g line).closeTop g line = _ := State.closeTop_cons inner
    refine rooted.event happens ?_ ?_ (rooted.ended_traced happens stacked shaped owned ?_
      (closed_leaves g owner line))
    · intro b isOpen
      rw [closed] at isOpen
      exact .inl (outer.subset (List.mem_cons_of_mem _ isOpen))
    · rw [List.append_assoc]
      exact congrArg State.ranges closed
    · rcases role with ⟨docstring, -⟩ | ⟨closing, -⟩
      · exact .inr (.inr docstring)
      · exact .inl closing
  | goOn top below role stack =>
    refine rooted.shrink ?_ rfl
    rw [stack]
    intro b isOpen
    rcases List.mem_cons.mp isOpen with rfl | under
    · exact ⟨top, List.mem_cons_self, rfl, rfl⟩
    · exact ⟨b, List.mem_cons_of_mem _ under, rfl, rfl⟩

theorem Inside.rooted {found : UnnestedMatch} {resume : Option Nat} {top : Block} {below : List Block}
    (move : Inside g line text s found next resume)
    (happens : Happens g document ⟨line, found.role, top.rule, s, next⟩)
    (stack : s.stack = top :: below) (stacked : Stacked g line s.stack)
    (role : found.role = .middle ∨ found.role = .closing)
    (rooted : Rooted g document s) : Rooted g document next := by
  have isOpen : top ∈ s.stack := by simp [stack]
  have known := List.getElem?_eq_getElem (stacked.known top isOpen)
  have ends : found.role.ends = true := by
    rcases role with middle | closing
    · simp [middle, Role.ends]
    · simp [closing, Role.ends]
  cases move with
  | empty => exact rooted.shrink (fun b isOpen => ⟨b, isOpen, rfl, rfl⟩) rfl
  | split other rest same middle =>
    cases stack.symm.trans same
    have leaves := before_leaves g top.rule top.start line
    have divided : s.splitTop g line = _ := State.splitTop_cons stack
    refine rooted.event happens ?_ (congrArg State.ranges divided) fun range member emits => ?_
    · refine Event.begins_cons (by simp [middle, Role.begins]) (congrArg State.stack divided) rfl rfl ?_
      simp [stack]
    · rw [List.mem_reverse] at member
      refine ⟨_, _, rooted.traced isOpen known leaves member ?_⟩
      exact .marker _ happens (leaves.mem member).2.1 emits (.own ends rfl)
  | close other rest _ same =>
    cases stack.symm.trans same
    have leaves := closed_leaves g top line
    have closed : s.closeTop g line = _ := State.closeTop_cons stack
    refine rooted.event happens ?_ (congrArg State.ranges closed) fun range member emits => ?_
    · intro b left
      rw [show (s.closeTop g line).stack = below from congrArg State.stack closed] at left
      exact .inl (stack ▸ List.mem_cons_of_mem _ left)
    · rw [List.mem_reverse] at member
      refine ⟨_, _, rooted.traced isOpen known leaves member ?_⟩
      exact .marker _ happens (leaves.mem member).2.1 emits (.own ends rfl)
  | refuse => exact rooted.shrink (fun b isOpen => ⟨b, isOpen, rfl, rfl⟩) rfl

theorem LineEnd.rooted (ending : LineEnd g line s next) (stacked : Stacked g line s.stack)
    (rooted : Rooted g document s) : Rooted g document next := by
  cases ending with
  | pass => exact rooted
  | close top below _ stack chain =>
    have isOpen : top ∈ s.stack := by simp [stack]
    have known := List.getElem?_eq_getElem (stacked.known top isOpen)
    rw [State.closeTop_cons stack]
    constructor
    · intro b left
      exact rooted.blocks b (stack ▸ List.mem_cons_of_mem _ left)
    · intro range member
      rcases List.mem_append.mp member with comesOut | old
      · rw [List.mem_reverse] at comesOut
        refine ⟨_, _, rooted.traced isOpen known (closed_leaves g top line) comesOut (.chain ?_)⟩
        simpa [Grammar.isContinuation, known] using chain
      · exact rooted.ranges range old
  | drop top below stack =>
    refine rooted.shrink (fun b left => ⟨b, ?_, rfl, rfl⟩) rfl
    exact stack ▸ List.mem_cons_of_mem _ left

theorem Reaches.rooted (closed : g.Closed) (fitting : g.Fitting)
    (h : Reaches g document line place s) : Rooted g document s := by
  refine reaches_induction (P := fun _ s => Rooted g document s) .start ?_ ?_ h
  · intro line text s place next further known reached inside rooted stepped
    have stacked := reached.stacked closed
    have shaped := reached.shaped closed fitting
    rcases step_cases stepped with ⟨found, _, mode, searched, move, -⟩ |
      ⟨rule, r, found, _, mode, ruleKnown, searched, move, -⟩
    · have happens := Happens.marker known reached inside stepped (.anywhere found mode searched)
      exact move.rooted happens stacked shaped (fitting _ _ _ searched) rooted
    · obtain ⟨top, below, stack, rfl, -⟩ := reached.aimed rule mode
      have happens := Happens.marker known reached inside stepped
        (.inside top.rule r found mode ruleKnown searched)
      exact move.rooted happens stack stacked (CompiledRule.findUnnested_role searched) rooted
  · intro line s place reached rooted
    exact (endLine_lineEnd g line s).rooted (reached.stacked closed) rooted

/-- Every range of a document can be traced, those of the sections that run up to its end included. -/
theorem run_traced (closed : g.Closed) (fitting : g.Fitting) (member : range ∈ run g document) :
    ∃ rule r, Traced g document range rule r := by
  have reached : Reaches g document document.length 0 (before g document document.length) :=
    .lineStart (Nat.le_refl _)
  have rooted := reached.rooted closed fitting
  rw [run_eq_finish, State.finish, List.mem_reverse, State.emit_ranges] at member
  rcases List.mem_append.mp member with flushed | old
  · rw [List.mem_reverse] at flushed
    obtain ⟨b, isSection, left⟩ := List.mem_flatMap.mp flushed
    obtain ⟨isOpen, isSection⟩ := List.mem_filter.mp isSection
    have known := List.getElem?_eq_getElem ((reached.stacked closed).known b isOpen)
    have shape := ((reached.shaped closed fitting).fits b isOpen _ known).1.mp isSection
    have leaves := before_leaves g b.rule b.start document.length
    exact ⟨_, _, rooted.traced isOpen known leaves left (.lastLine shape (before_stop range left))⟩
  · exact rooted.ranges range old

theorem Happens.line_ne (happens : Happens g document e) (known : document[line]? = some text)
    (silent : step g line text (before g document line) 0 = none) : e.line ≠ line := by
  have stays {place : Nat} {s : State} (reached : Reaches g document line place s) :
      step g line text s place = none := by
    induction reached with
    | lineStart => exact silent
    | marker same _ _ stepped ih =>
      cases known.symm.trans same
      cases ih.symm.trans stepped
  intro same
  cases happens with
  | marker known' reached _ stepped =>
    subst same
    cases known.symm.trans known'
    cases (stays reached).symm.trans stepped

end Fold

namespace RuleSet

open Fold

/-- No range comes out of thin air. It belongs to a rule of its kind. A marker of the rule began it on its
first line, unless it is what a separator found in front of the first section of a block. And it came out
at a marker of the rule or of the block around its section, at the end of a chain of lines, or as a
section at the end of the document. -/
theorem fold_traced {rules : List Rule}
    (free : ∀ a ∈ (compile rules).candidates, a.pattern.verboseFree = true) (document : Document)
    {range : Range} (member : range ∈ (compile rules).fold document) :
    ∃ m rule r, (compile rules).master = some m ∧
      Traced ((compile rules).grammar m) document range rule r := by
  cases combined : (compile rules).master with
  | none => simp [fold, combined] at member
  | some m =>
    rw [fold_eq_run combined] at member
    obtain ⟨rule, r, traced⟩ :=
      run_traced (compile_closed combined) (compile_fitting combined free) member
    exact ⟨m, rule, r, rfl, traced⟩

def regionRules : List Rule :=
  [.ofTexts "#region" "#endregion", { separator := { regex := some "^---$" } }]

/-- A region with a leading section, one that the next separator ends, and one that ends with the region. -/
def region : Document :=
  .ofLines ["#region", "a", "b", "---", "c", "---", "d", "#endregion"]

set_option maxRecDepth 100000 in
/-- The leading section of a region can be traced, though no block begins on its first line. -/
theorem fold_traced_in_region :
    (∀ a ∈ (compile regionRules).candidates, a.pattern.verboseFree = true) ∧
    (compile regionRules).fold region =
      [⟨1, 2, .region⟩, ⟨3, 4, .region⟩, ⟨5, 6, .region⟩, ⟨0, 7, .region⟩] ∧
    ∃ m rule r, (compile regionRules).master = some m ∧
      Traced ((compile regionRules).grammar m) region ⟨1, 2, .region⟩ rule r := by
  have free : ∀ a ∈ (compile regionRules).candidates, a.pattern.verboseFree = true := by
    decide +kernel
  have folded : (compile regionRules).fold region =
      [⟨1, 2, .region⟩, ⟨3, 4, .region⟩, ⟨5, 6, .region⟩, ⟨0, 7, .region⟩] := by
    decide +kernel
  have member : ⟨1, 2, .region⟩ ∈ (compile regionRules).fold region := by
    rw [folded]
    exact List.mem_cons_self
  exact ⟨free, folded, fold_traced free region member⟩

set_option maxRecDepth 100000 in
/-- A range on whose first line nothing happens: what reports a separator is a group in a delimiter, and the
lines in front of it come out as a leading section of a rule that is no separator. -/
theorem fold_untraced :
    ∃ m, (compile hiddenSeparatorRules).master = some m ∧
      (compile hiddenSeparatorRules).fold (.ofLines ["x", "", "", "c"]) = [⟨0, 2, .region⟩] ∧
      ∀ rule r, ¬Traced ((compile hiddenSeparatorRules).grammar m) (.ofLines ["x", "", "", "c"])
        ⟨0, 2, .region⟩ rule r := by
  obtain ⟨m, combined⟩ := Option.isSome_iff_exists.mp
    (show (compile hiddenSeparatorRules).master.isSome = true by decide +kernel)
  have silent : (compile hiddenSeparatorRules).master.all fun m =>
      (step ((compile hiddenSeparatorRules).grammar m) 0 (.ofString "x") .start 0).isNone := by
    decide +kernel
  rw [combined, Option.all_some, Option.isNone_iff_eq_none] at silent
  have unseparated : ∀ r ∈ (compile hiddenSeparatorRules).rules, r.shape ≠ .separator := by
    decide +kernel
  refine ⟨m, combined, by decide +kernel, fun rule r traced => ?_⟩
  rcases traced.begun with ⟨e, happens, -, -, first, -⟩ | ⟨e, -, shape⟩
  · have quiet : e.line ≠ 0 := happens.line_ne rfl silent
    exact quiet first
  · exact unseparated r (List.mem_of_getElem? traced.known) shape

end RuleSet

end Foldmark
