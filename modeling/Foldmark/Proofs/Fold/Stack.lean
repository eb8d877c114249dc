import Foldmark.Proofs.Fold.Reach

/-! The open blocks of a scan. `Stacked` says how they lie on each other and `Aimed` whose markers are looked
for, which holds for every rule set. `Shaped` says what the rules of the blocks make of them, and needs
a pattern that reports every marker in a role of its own rule. -/
namespace Foldmark.Fold

variable {g : Grammar} {document : Document} {line place : Nat} {text : Line} {s next : State}
  {stack below : List Block} {top : Block}

/-- Every marker that the pattern can report belongs to one of the rules. -/
def Grammar.Closed (g : Grammar) : Prop := ∀ group ∈ g.master.groups, group.rule < g.rules.length

/-- Every marker that the pattern reports has a role of the rule that it is reported for. -/
def Grammar.Fitting (g : Grammar) : Prop :=
  ∀ text place found, g.master.findAt text place = some found →
    ∃ r, g.rules[found.rule]? = some r ∧ found.role ∈ r.roles

theorem Grammar.Closed.rule_lt (closed : g.Closed) {found : MarkerMatch}
    (h : g.master.findAt text place = some found) : found.rule < g.rules.length := by
  obtain ⟨-, group, isGroup, -, rule⟩ := Master.findAt_origin h
  exact rule ▸ closed group isGroup

/-- Blocks belong to rules, begin no earlier than those below them and no later than on the line that
is read, and all but the innermost belong to rules that nest. -/
structure Stacked (g : Grammar) (line : Nat) (stack : List Block) : Prop where
  known : ∀ b ∈ stack, b.rule < g.rules.length
  sorted : stack.Pairwise fun inner outer => outer.start ≤ inner.start
  started : ∀ b ∈ stack, b.start ≤ line
  nests : ∀ b ∈ stack.tail, g.nests b.rule = true

namespace Stacked

theorem nil : Stacked g line [] := by
  constructor <;> simp

theorem later (valid : Stacked g line stack) : Stacked g (line + 1) stack :=
  ⟨valid.known, valid.sorted, fun b member => Nat.le_succ_of_le (valid.started b member),
    valid.nests⟩

theorem suffix (valid : Stacked g line stack) {rest : List Block} (h : rest <:+ stack) :
    Stacked g line rest := by
  obtain ⟨front, rfl⟩ := h
  refine ⟨fun b member => valid.known b (List.mem_append_right _ member),
    (List.pairwise_append.mp valid.sorted).2.1,
    fun b member => valid.started b (List.mem_append_right _ member), fun b member => ?_⟩
  apply valid.nests
  cases front with
  | nil => exact member
  | cons first front => exact List.mem_append_right _ (List.mem_of_mem_tail member)

theorem push (valid : Stacked g line stack) {b : Block} (known : b.rule < g.rules.length)
    (fresh : b.start = line) (mayOpen : ∀ outer ∈ stack.head?, g.nests outer.rule = true) :
    Stacked g line (b :: stack) := by
  refine ⟨?_, ?_, ?_, ?_⟩
  · intro c member
    rcases List.mem_cons.mp member with rfl | old
    · exact known
    · exact valid.known c old
  · refine List.pairwise_cons.mpr ⟨fun outer member => ?_, valid.sorted⟩
    rw [fresh]
    exact valid.started outer member
  · intro c member
    rcases List.mem_cons.mp member with rfl | old
    · exact Nat.le_of_eq fresh
    · exact valid.started c old
  · intro c member
    cases stack with
    | nil => simp at member
    | cons outer rest =>
      rcases List.mem_cons.mp member with rfl | old
      · exact mayOpen c (by simp)
      · exact valid.nests c old

theorem restart (valid : Stacked g line (top :: below)) {b : Block} (rule : b.rule = top.rule)
    (start : b.start = top.start ∨ b.start = line) : Stacked g line (b :: below) := by
  have reached : top.start ≤ b.start ∧ b.start ≤ line := by
    have := valid.started top List.mem_cons_self
    omega
  refine ⟨?_, ?_, ?_, valid.nests⟩
  · intro c member
    rcases List.mem_cons.mp member with rfl | old
    · exact rule ▸ valid.known top List.mem_cons_self
    · exact valid.known c (List.mem_cons_of_mem _ old)
  · obtain ⟨first, rest⟩ := List.pairwise_cons.mp valid.sorted
    exact List.pairwise_cons.mpr
      ⟨fun outer member => Nat.le_trans (first outer member) reached.1, rest⟩
  · intro c member
    rcases List.mem_cons.mp member with rfl | old
    · exact reached.2
    · exact valid.started c (List.mem_cons_of_mem _ old)

end Stacked

theorem mayOpen_head (h : s.mayOpen g = true) :
    ∀ outer ∈ s.stack.head?, g.nests outer.rule = true := by
  intro outer first
  cases stack : s.stack with
  | nil => simp [stack] at first
  | cons top below =>
    simp only [stack, List.head?_cons, Option.mem_some_iff] at first
    subst first
    simpa [State.mayOpen, stack] using h

theorem Move.stacked {found : MarkerMatch} {resume : Option Nat}
    (move : Move g line text s found next resume) (valid : Stacked g line s.stack)
    (known : found.rule < g.rules.length) : Stacked g line next.stack := by
  have outside : Stacked g line (s.endSections g line).stack :=
    valid.suffix (List.dropWhile_suffix _)
  cases move with
  | pass => exact valid
  | pair r expected _ mayOpen => exact valid.push known rfl (mayOpen_head mayOpen)
  | chain r _ mayOpen => exact valid.push known rfl (mayOpen_head mayOpen)
  | docstring _ _ mayOpen => exact valid.push known rfl (mayOpen_head mayOpen)
  | «section» _ mayOpen => exact valid.push known rfl (mayOpen_head mayOpen)
  | nextSection top below _ stack =>
    rw [State.splitTop_cons stack]
    exact (stack ▸ valid).restart rfl (.inr rfl)
  | split owner _ owned =>
    obtain ⟨-, below, rest⟩ := State.owner?_eq_some owned
    rw [State.splitTop_cons rest]
    exact (rest ▸ outside).restart rfl (.inr rfl)
  | close owner _ owned =>
    obtain ⟨-, below, rest⟩ := State.owner?_eq_some owned
    rw [State.closeTop_cons rest]
    exact (rest ▸ outside).suffix (List.suffix_cons _ _)
  | goOn top below _ stack => exact (stack ▸ valid).restart rfl (.inl rfl)

theorem Inside.stacked {found : UnnestedMatch} {resume : Option Nat}
    (move : Inside g line text s found next resume) (valid : Stacked g line s.stack) :
    Stacked g line next.stack := by
  cases move with
  | empty => exact valid
  | split top below stack =>
    rw [State.splitTop_cons stack]
    exact (stack ▸ valid).restart rfl (.inr rfl)
  | close top below _ stack =>
    rw [State.closeTop_cons stack]
    exact (stack ▸ valid).suffix (List.suffix_cons _ _)
  | refuse => exact valid

theorem LineEnd.stacked (ending : LineEnd g line s next) (valid : Stacked g line s.stack) :
    Stacked g line next.stack := by
  cases ending with
  | pass => exact valid
  | close top below _ stack =>
    rw [State.closeTop_cons stack]
    exact (stack ▸ valid).suffix (List.suffix_cons _ _)
  | drop top below stack => exact (stack ▸ valid).suffix (List.suffix_cons _ _)

theorem step_stacked (closed : g.Closed) (valid : Stacked g line s.stack) {further : Nat}
    (stepped : step g line text s place = some (next, further)) : Stacked g line next.stack := by
  rcases step_cases stepped with ⟨found, _, _, atPlace, move, _⟩ | ⟨_, _, _, _, _, _, _, move, _⟩
  · exact move.stacked valid (closed.rule_lt atPlace)
  · exact move.stacked valid

theorem Reaches.stacked (closed : g.Closed) (h : Reaches g document line place s) :
    Stacked g line s.stack :=
  reaches_invariant (P := fun line s => Stacked g line s.stack) .nil
    (fun _ _ _ _ _ _ valid stepped => step_stacked closed valid stepped)
    (fun line s valid => ((endLine_lineEnd g line s).stacked valid).later) h

def Lone (g : Grammar) (b : Block) : Prop :=
  ∃ r, g.rules[b.rule]? = some r ∧ r.shape = .paired ∧ r.nested = false

/-- The markers of one rule alone are looked for just inside a block of that rule. -/
def Aimed (g : Grammar) (s : State) : Prop :=
  ∀ rule, s.mode = .unnested rule →
    ∃ top below, s.stack = top :: below ∧ top.rule = rule ∧ Lone g top

theorem aimed_of_normal (h : s.mode = .normal) : Aimed g s := by
  intro rule mode
  rw [h] at mode
  cases mode

theorem aimed_of_lone (stack : s.stack = top :: below) (lone : Lone g top)
    (h : s.mode = .unnested top.rule) : Aimed g s := by
  intro rule mode
  rw [h] at mode
  cases mode
  exact ⟨top, below, stack, rfl, lone⟩

theorem Move.aimed {found : MarkerMatch} {resume : Option Nat}
    (move : Move g line text s found next resume) (mode : s.mode = .normal) : Aimed g next := by
  have outside : (s.endSections g line).mode = .normal := mode
  cases move with
  | pass => exact aimed_of_normal mode
  | pair r expected _ _ known shape =>
    cases nested : r.nested with
    | true => exact aimed_of_normal (by simpa [nested] using mode)
    | false => exact aimed_of_lone rfl ⟨r, known, shape, nested⟩ (by simp)
  | chain => exact aimed_of_normal mode
  | docstring => exact aimed_of_normal mode
  | «section» => exact aimed_of_normal mode
  | nextSection top below _ stack =>
    rw [State.splitTop_cons stack]
    exact aimed_of_normal mode
  | split owner _ owned =>
    obtain ⟨-, below, rest⟩ := State.owner?_eq_some owned
    rw [State.splitTop_cons rest]
    exact aimed_of_normal outside
  | close owner _ owned =>
    obtain ⟨-, below, rest⟩ := State.owner?_eq_some owned
    rw [State.closeTop_cons rest]
    exact aimed_of_normal outside
  | goOn top below _ stack => exact aimed_of_normal mode

theorem Inside.aimed {found : UnnestedMatch} {resume : Option Nat} {rule : Nat}
    (move : Inside g line text s found next resume) (aimed : Aimed g s)
    (mode : s.mode = .unnested rule) : Aimed g next := by
  obtain ⟨owner, rest, stack, -, lone⟩ := aimed rule mode
  cases move with
  | empty => exact aimed_of_normal rfl
  | split top below same =>
    cases stack.symm.trans same
    rw [State.splitTop_cons stack]
    exact aimed_of_lone rfl lone rfl
  | close => exact aimed_of_normal rfl
  | refuse top below same =>
    cases stack.symm.trans same
    exact aimed_of_lone stack lone rfl

theorem Aimed.normal (aimed : Aimed g s) (stack : s.stack = top :: below)
    (chain : g.isContinuation top.rule = true) : s.mode = .normal := by
  cases mode : s.mode with
  | normal => rfl
  | unnested rule =>
    obtain ⟨owner, rest, same, -, r, known, paired, -⟩ := aimed rule mode
    cases stack.symm.trans same
    simp [Grammar.isContinuation, known, CompiledRule.isContinuation, paired] at chain

theorem LineEnd.aimed (ending : LineEnd g line s next) (aimed : Aimed g s) : Aimed g next := by
  cases ending with
  | pass => exact aimed
  | close top below _ stack chain =>
    rw [State.closeTop_cons stack]
    exact aimed_of_normal (aimed.normal stack chain)
  | drop top below stack chain => exact aimed_of_normal (aimed.normal stack chain)

theorem step_aimed (aimed : Aimed g s) {further : Nat}
    (stepped : step g line text s place = some (next, further)) : Aimed g next := by
  rcases step_cases stepped with ⟨_, _, mode, _, move, _⟩ | ⟨_, _, _, _, mode, _, _, move, _⟩
  · exact move.aimed mode
  · exact move.aimed aimed mode

theorem Reaches.aimed (h : Reaches g document line place s) : Aimed g s :=
  reaches_invariant (P := fun _ s => Aimed g s) (aimed_of_normal rfl)
    (fun _ _ _ _ _ _ aimed stepped => step_aimed aimed stepped)
    (fun line s aimed => (endLine_lineEnd g line s).aimed aimed) h

theorem Stacked.innermost (valid : Stacked g line stack) {b : Block} (member : b ∈ stack)
    {r : CompiledRule} (known : g.rules[b.rule]? = some r) (alone : r.nested = false) :
    ∃ below, stack = b :: below := by
  cases stack with
  | nil => simp at member
  | cons top below =>
    rcases List.mem_cons.mp member with rfl | under
    · exact ⟨below, rfl⟩
    · have nests := valid.nests b under
      simp [Grammar.nests, known, alone] at nests

/-- A block is a section if its rule is a separator, and expects a closing marker of its own if its
rule has one that repeats the opening marker. -/
def Fits (g : Grammar) (b : Block) : Prop :=
  ∀ r, g.rules[b.rule]? = some r →
    (b.isSection = true ↔ r.shape = .separator) ∧ b.expected.isSome = r.mirror?.isSome

/-- Every block fits its rule, and the markers of one rule alone are looked for exactly inside a
block of that rule that does not nest. -/
structure Shaped (g : Grammar) (s : State) : Prop where
  fits : ∀ b ∈ s.stack, Fits g b
  alone : ∀ rule, s.mode = .unnested rule ↔
    ∃ top below, s.stack = top :: below ∧ top.rule = rule ∧ Lone g top

theorem not_lone_of_nests {b : Block} (nests : g.nests b.rule = true) : ¬Lone g b := by
  rintro ⟨r, known, -, alone⟩
  simp [Grammar.nests, known, alone] at nests

theorem not_lone_of_shape {b : Block} {r : CompiledRule} (known : g.rules[b.rule]? = some r)
    (shape : r.shape ≠ .paired) : ¬Lone g b := by
  rintro ⟨other, known', paired, -⟩
  rw [known] at known'
  cases known'
  exact shape paired

theorem fits_new {rule : Nat} {r : CompiledRule} {expected : Option ExpectedEnd}
    (known : g.rules[rule]? = some r) {isSection : Bool} (start : Nat)
    (sections : isSection = true ↔ r.shape = .separator)
    (mirrors : expected.isSome = r.mirror?.isSome) :
    Fits g { rule, start, expected, isSection } := by
  intro other known'
  simp only [known, Option.some.injEq] at known'
  subst known'
  exact ⟨sections, mirrors⟩

/-- Blocks that fit their rules, and none of which looks for its own markers only. -/
def Plain (g : Grammar) (stack : List Block) : Prop := ∀ b ∈ stack, Fits g b ∧ ¬Lone g b

namespace Plain

theorem cons (plain : Plain g stack) {b : Block} (fits : Fits g b) (lone : ¬Lone g b) :
    Plain g (b :: stack) :=
  List.forall_mem_cons.mpr ⟨⟨fits, lone⟩, plain⟩

theorem subset (plain : Plain g stack) (inside : below ⊆ stack) : Plain g below :=
  fun b member => plain b (inside member)

theorem restart (plain : Plain g (top :: below)) {b : Block} (fits : Fits g top → Fits g b)
    (alike : Lone g b → Lone g top) : Plain g (b :: below) := by
  obtain ⟨⟨fitting, lone⟩, rest⟩ := List.forall_mem_cons.mp plain
  exact cons rest (fits fitting) fun h => lone (alike h)

theorem unpaired (plain : Plain g stack) {rule : Nat} {r : CompiledRule}
    (known : g.rules[rule]? = some r) (shape : r.shape ≠ .paired) (start : Nat) {isSection : Bool}
    (sections : isSection = true ↔ r.shape = .separator) :
    Plain g ({ rule, start, isSection } :: stack) := by
  refine plain.cons (fits_new known start sections ?_) (not_lone_of_shape known shape)
  simp [CompiledRule.mirror?_eq_none shape]

theorem shaped (plain : Plain g s.stack) (mode : s.mode = .normal) : Shaped g s := by
  refine ⟨fun b member => (plain b member).1, fun rule => ?_⟩
  rw [mode]
  constructor
  · intro h
    cases h
  · rintro ⟨top, below, stack, -, lone⟩
    exact absurd lone (plain top (by simp [stack])).2

end Plain

theorem Shaped.plain_below (shaped : Shaped g s) (valid : Stacked g line s.stack)
    (stack : s.stack = top :: below) : Plain g below := by
  intro b under
  refine ⟨shaped.fits b (by simp [stack, under]), not_lone_of_nests (valid.nests b ?_)⟩
  simpa [stack] using under

theorem Shaped.plain (shaped : Shaped g s) (valid : Stacked g line s.stack)
    (mode : s.mode = .normal) : Plain g s.stack := by
  cases stack : s.stack with
  | nil => simp [Plain]
  | cons top below =>
    refine (shaped.plain_below valid stack).cons (shaped.fits top (by simp [stack])) fun lone => ?_
    have := (shaped.alone top.rule).mpr ⟨top, below, stack, rfl, lone⟩
    simp [mode] at this

theorem shaped_of_lone (stack : s.stack = top :: below) (fits : ∀ b ∈ s.stack, Fits g b)
    (lone : Lone g top) (mode : s.mode = .unnested top.rule) : Shaped g s := by
  refine ⟨fits, fun rule => ?_⟩
  rw [mode]
  constructor
  · intro h
    cases h
    exact ⟨top, below, stack, rfl, lone⟩
  · rintro ⟨top', below', stack', rfl, -⟩
    rw [stack] at stack'
    cases stack'
    rfl

theorem Move.shaped {found : MarkerMatch} {resume : Option Nat}
    (move : Move g line text s found next resume) (valid : Stacked g line s.stack)
    (shaped : Shaped g s) (mode : s.mode = .normal)
    (fitting : ∃ r, g.rules[found.rule]? = some r ∧ found.role ∈ r.roles) : Shaped g next := by
  have plain := shaped.plain valid mode
  have outside : Plain g (s.endSections g line).stack :=
    plain.subset (List.dropWhile_suffix _).subset
  obtain ⟨own, ownKnown, ownRole⟩ := fitting
  cases move with
  | pass => exact shaped
  | pair r expected _ _ known shape mirrors =>
    have fits : Fits g { rule := found.rule, start := line, expected } :=
      fits_new known line (by simp [shape]) mirrors
    by_cases nested : r.nested = true
    · have lone : ¬Lone g { rule := found.rule, start := line, expected } :=
        not_lone_of_nests (by simp [Grammar.nests, known, nested])
      exact (plain.cons fits lone).shaped (by simpa [nested] using mode)
    · have alone : r.nested = false := Bool.eq_false_iff.mpr nested
      exact shaped_of_lone rfl (List.forall_mem_cons.mpr ⟨fits, shaped.fits⟩)
        ⟨r, known, shape, alone⟩ (by simp [alone])
  | chain r _ _ known shape =>
    exact (plain.unpaired known (by simp [shape]) line (by simp [shape])).shaped mode
  | docstring role =>
    have shape := (CompiledRule.docstring_mem_roles own).mp (role ▸ ownRole)
    exact (plain.unpaired ownKnown (by simp [shape]) line (by simp [shape])).shaped mode
  | «section» role =>
    have shape := (CompiledRule.separator_mem_roles own).mp (role ▸ ownRole)
    exact (plain.unpaired ownKnown (by simp [shape]) line (by simp [shape])).shaped mode
  | nextSection top below _ stack =>
    rw [State.splitTop_cons stack]
    rw [stack] at plain
    exact Plain.shaped (plain.restart id id) mode
  | split owner _ owned =>
    obtain ⟨-, below, rest⟩ := State.owner?_eq_some owned
    rw [rest] at outside
    rw [State.splitTop_cons rest]
    exact Plain.shaped (outside.restart id id) mode
  | close owner _ owned =>
    obtain ⟨-, below, rest⟩ := State.owner?_eq_some owned
    rw [rest] at outside
    rw [State.closeTop_cons rest]
    exact (outside.subset (List.subset_cons_self _ _)).shaped mode
  | goOn top below _ stack =>
    rw [stack] at plain
    exact Plain.shaped (plain.restart id id) mode

theorem Inside.shaped {found : UnnestedMatch} {resume : Option Nat} {rule : Nat}
    (move : Inside g line text s found next resume) (valid : Stacked g line s.stack)
    (shaped : Shaped g s) (mode : s.mode = .unnested rule) : Shaped g next := by
  obtain ⟨owner, rest, stack, rfl, lone⟩ := (shaped.alone rule).mp mode
  have fits := shaped.fits
  rw [stack] at fits
  cases move with
  | empty empty => simp [stack] at empty
  | split top below same =>
    rw [stack] at same
    cases same
    rw [State.splitTop_cons stack]
    have first := (List.forall_mem_cons.mp fits).1
    exact shaped_of_lone rfl (List.forall_mem_cons.mpr ⟨first, (List.forall_mem_cons.mp fits).2⟩)
      lone rfl
  | close top below _ same =>
    rw [stack] at same
    cases same
    rw [State.closeTop_cons stack]
    exact (shaped.plain_below valid stack).shaped rfl
  | refuse top below same =>
    rw [stack] at same
    cases same
    exact shaped_of_lone stack shaped.fits lone rfl

theorem LineEnd.shaped (ending : LineEnd g line s next) (valid : Stacked g line s.stack)
    (shaped : Shaped g s) : Shaped g next := by
  have aimed : Aimed g s := fun rule => (shaped.alone rule).mp
  have popped (top : Block) (below : List Block) (stack : s.stack = top :: below)
      (chain : g.isContinuation top.rule = true) (ranges : List Range) :
      Shaped g ⟨below, ranges, s.mode⟩ :=
    (shaped.plain_below valid stack).shaped (aimed.normal stack chain)
  cases ending with
  | pass => exact shaped
  | close top below _ stack chain =>
    rw [State.closeTop_cons stack]
    exact popped top below stack chain _
  | drop top below stack chain => exact popped top below stack chain _

theorem start_shaped : Shaped g .start :=
  Plain.shaped (by simp [Plain, State.start]) rfl

theorem step_shaped (fitting : g.Fitting) (valid : Stacked g line s.stack) (shaped : Shaped g s)
    {further : Nat} (stepped : step g line text s place = some (next, further)) : Shaped g next := by
  rcases step_cases stepped with ⟨found, _, mode, atPlace, move, _⟩ |
    ⟨_, _, _, _, mode, _, _, move, _⟩
  · exact move.shaped valid shaped mode (fitting _ _ _ atPlace)
  · exact move.shaped valid shaped mode

theorem Reaches.shaped (closed : g.Closed) (fitting : g.Fitting)
    (h : Reaches g document line place s) : Shaped g s := by
  refine (reaches_invariant (P := fun line s => Stacked g line s.stack ∧ Shaped g s)
    ⟨.nil, start_shaped⟩ ?_ ?_ h).2
  · rintro line text s place next further ⟨valid, shaped⟩ stepped
    exact ⟨step_stacked closed valid stepped, step_shaped fitting valid shaped stepped⟩
  · rintro line s ⟨valid, shaped⟩
    have ending := endLine_lineEnd g line s
    exact ⟨(ending.stacked valid).later, ending.shaped valid shaped⟩

end Foldmark.Fold
