import Mathlib.Data.List.Chain
import Foldmark.Proofs.Fold.State

/-! Sections. A section that lies directly in another one belongs to another rule, and the sections at one
height of the stack take up lines one after the other. So two parts of one block that separators of
one rule leave can overlap only where a section of another rule lies around one of them. -/
namespace Foldmark

namespace Fold

variable {g : Grammar} {document : Document} {line place : Nat} {text : Line} {s next : State}
  {stack below kept front rest : List Block} {b top : Block}

/-- A section that lies directly in a section belongs to another rule. -/
def Alternating (stack : List Block) : Prop :=
  stack.IsChain fun inner outer =>
    inner.isSection = true → outer.isSection = true → inner.rule ≠ outer.rule

/-- What a separator leaves: its rule, the blocks around the part that it ends, and the range. -/
structure Piece where
  rule : Nat
  under : List Block
  range : Range

namespace Piece

def height (p : Piece) : Nat := p.under.length

/-- The innermost block around a piece that is no section, on the blocks around it. -/
def enclosing (p : Piece) : List Block := p.under.dropWhile (·.isSection)

/-- Whether a piece lies directly in a section of another rule. -/
def Inset (p : Piece) : Prop :=
  ∃ outer ∈ p.under.head?, outer.isSection = true ∧ outer.rule ≠ p.rule

end Piece

/-- Whether the block at a height of a stack begins on a line. -/
def standsAt (stack : List Block) (height start : Nat) : Bool :=
  (stack.reverse[height]?).any (·.start = start)

/-- What the sections of a stack leave that are gone or begin anew. -/
def ended (g : Grammar) (line : Nat) (kept : List Block) : List Block → List Piece
  | [] => []
  | b :: under =>
    (if b.isSection && !standsAt kept under.length b.start then
      (g.before b.rule b.start line).map fun range => ⟨b.rule, under, range⟩ else []) ++
      ended g line kept under

def begun (g : Grammar) (line : Nat) (s next : State) : List Piece :=
  match next.stack with
  | [] => []
  | b :: under =>
    if b.isSection && under.length = s.stack.length then
      (g.before b.rule s.leading line).map fun range => ⟨b.rule, under, range⟩ else []

def divided (g : Grammar) (line : Nat) (s next : State) : List Piece :=
  begun g line s next ++ ended g line next.stack s.stack

def stepsPieces (g : Grammar) (line : Nat) (text : Line) : Nat → State → Nat → List Piece
  | 0, _, _ => []
  | count + 1, s, place =>
    if place ≤ text.size then
      match step g line text s place with
      | some (next, further) =>
        divided g line s next ++ stepsPieces g line text count next further
      | none => []
    else []

def linesPieces (g : Grammar) : Nat → Document → State → List Piece
  | _, [], _ => []
  | line, text :: rest, s =>
    let behind := steps g line text (text.size + 1) s 0
    stepsPieces g line text (text.size + 1) s 0 ++
      divided g line behind (behind.endLine g line) ++
      linesPieces g (line + 1) rest (readLine g line text s)

/-- What separators leave in a document, at the end of which all sections end. -/
def pieces (g : Grammar) (document : Document) : List Piece :=
  linesPieces g 0 document .start ++
    ended g document.length [] (before g document document.length).stack

/-- A bound in front of which all pieces at a height have ended: the first line of the section at that
height, or else that of the block around it. -/
def floorAt (line height : Nat) : List Block → Nat
  | [] => if height = 0 then 0 else line
  | b :: below =>
    if below.length + 1 < height then line
    else if below.length + 1 = height then b.start
    else if below.length = height ∧ b.isSection = true then b.start
    else floorAt line height below

section Floor

variable {height : Nat}

theorem floorAt_append (inside : height < rest.length) :
    floorAt line height (front ++ rest) = floorAt line height rest := by
  induction front with
  | nil => rfl
  | cons b front ih =>
    rw [List.cons_append, floorAt, if_neg (by simp; omega), if_neg (by simp; omega),
      if_neg (by simp; omega), ih]

theorem floorAt_beyond (outside : stack.length < height) : floorAt line height stack = line := by
  cases stack with
  | nil =>
    have : height ≠ 0 := by simp at outside; omega
    simp [floorAt, this]
  | cons b below =>
    rw [List.length_cons] at outside
    rw [floorAt, if_pos outside]

theorem floorAt_le (started : ∀ b ∈ stack, b.start ≤ line) : floorAt line height stack ≤ line := by
  induction stack with
  | nil =>
    unfold floorAt
    split <;> omega
  | cons b below ih =>
    have first := started b List.mem_cons_self
    have others := ih fun c member => started c (List.mem_cons_of_mem _ member)
    unfold floorAt
    split_ifs <;> omega

theorem floorAt_later : floorAt line height stack ≤ floorAt (line + 1) height stack := by
  induction stack with
  | nil =>
    unfold floorAt
    split <;> omega
  | cons b below ih =>
    unfold floorAt
    split_ifs <;> omega

/-- A block that begins on the line, or begins anew on it, raises the bounds at its height and above. -/
theorem floorAt_push (started : ∀ c ∈ stack, c.start ≤ line) (fresh : b.start = line) :
    floorAt line height stack ≤ floorAt line height (b :: stack) := by
  have bound : floorAt line height stack ≤ line := floorAt_le started
  rw [floorAt]
  split_ifs <;> omega

theorem floorAt_restart (started : b.start ≤ line) {own : Block} (fresh : own.start = line)
    (same : own.isSection = b.isSection) :
    floorAt line height (b :: below) ≤ floorAt line height (own :: below) := by
  rw [floorAt, floorAt, same]
  split_ifs <;> omega

theorem floorAt_pop (started : b.start ≤ line) (plain : b.isSection = false) :
    floorAt line height (b :: below) ≤ floorAt line height below := by
  rw [floorAt, plain]
  split_ifs with beyond first impossible
  · exact Nat.le_of_eq (floorAt_beyond (by omega)).symm
  · rwa [floorAt_beyond (by omega)]
  · simp at impossible
  · exact Nat.le_refl _

end Floor

section Ended

theorem standsAt_suffix (inside : b :: below <:+ kept) :
    standsAt kept below.length b.start = true := by
  obtain ⟨front, rfl⟩ := inside
  simp [standsAt]

theorem ended_of_suffix (inside : stack <:+ kept) : ended g line kept stack = [] := by
  induction stack with
  | nil => rfl
  | cons b below ih =>
    simp [ended, standsAt_suffix inside, ih ((List.suffix_cons _ _).trans inside)]

theorem ended_cons (plain : b.isSection = false) :
    ended g line kept (b :: below) = ended g line kept below := by
  simp [ended, plain]

theorem mem_ended {q : Piece} (member : q ∈ ended g line kept stack) :
    ∃ b, b :: q.under <:+ stack ∧ b.isSection = true ∧ b.rule = q.rule ∧
      q.range ∈ g.before b.rule b.start line := by
  induction stack with
  | nil => simp [ended] at member
  | cons b below ih =>
    rcases List.mem_append.mp member with here | under
    · split at here
      · rename_i gone
        obtain ⟨range, left, rfl⟩ := List.mem_map.mp here
        rw [Bool.and_eq_true] at gone
        exact ⟨b, List.suffix_refl _, gone.1, rfl, left⟩
      · simp at here
    · obtain ⟨c, inside, found⟩ := ih under
      exact ⟨c, inside.trans (List.suffix_cons _ _), found⟩

theorem ended_height {q : Piece} (member : q ∈ ended g line kept stack) :
    q.height < stack.length := by
  obtain ⟨b, inside, -⟩ := mem_ended member
  exact inside.length_le

theorem le_height_of_ended (settled : ended g line kept rest = []) {q : Piece}
    (member : q ∈ ended g line kept (front ++ rest)) : rest.length ≤ q.height := by
  induction front with
  | nil => simp [settled] at member
  | cons b front ih =>
    rcases List.mem_append.mp member with here | under
    · split at here
      · obtain ⟨range, -, rfl⟩ := List.mem_map.mp here
        simp [Piece.height]
      · simp at here
    · exact ih under

theorem ended_pairwise :
    (ended g line kept stack).Pairwise fun p q => p.height ≠ q.height := by
  induction stack with
  | nil => exact .nil
  | cons b below ih =>
    rw [ended]
    refine List.pairwise_append.mpr ⟨?_, ih, fun p here q under => ?_⟩
    · split
      · rcases before_leaves g b.rule b.start line with none | ⟨r, one, -⟩
        · simp [none]
        · simp [one]
      · exact .nil
    · split at here
      · obtain ⟨range, -, rfl⟩ := List.mem_map.mp here
        exact Nat.ne_of_gt (ended_height under)
      · simp at here

theorem ended_sublist (settled : ended g line kept rest = []) :
    ((ended g line kept (front ++ rest)).map (·.range)).Sublist
      ((front.filter (·.isSection)).flatMap fun b => g.before b.rule b.start line) := by
  induction front with
  | nil => simp [settled]
  | cons b front ih =>
    rw [List.cons_append, ended, List.map_append]
    by_cases isSection : b.isSection = true
    · rw [List.filter_cons_of_pos isSection, List.flatMap_cons]
      refine List.Sublist.append ?_ ih
      split
      · simp [Function.comp_def]
      · simp
    · rw [List.filter_cons_of_neg isSection, if_neg (by simp [isSection])]
      simpa using ih

theorem ended_start {q : Piece} (member : q ∈ ended g line kept stack) :
    q.range.start = floorAt line q.height stack := by
  obtain ⟨b, ⟨front, rfl⟩, isSection, -, range⟩ := mem_ended member
  have start : q.range.start = b.start := by
    rcases before_leaves g b.rule b.start line with none | ⟨r, one, start, -⟩
    · simp [none] at range
    · simp only [one, List.mem_singleton] at range
      exact range ▸ start
  have height : q.height = q.under.length := rfl
  rw [start, floorAt_append (by simp [height]), floorAt, height,
    if_neg (Nat.not_lt.mpr (Nat.le_succ _))]
  simp [isSection]

theorem ended_distinct (alternating : Alternating stack) {q : Piece}
    (member : q ∈ ended g line kept stack) :
    ∀ outer ∈ q.under.head?, outer.isSection = true → outer.rule ≠ q.rule := by
  intro outer first isSection same
  obtain ⟨b, suffix, own, rule, -⟩ := mem_ended member
  have adjacent := (List.isChain_cons.mp (alternating.suffix suffix)).1 outer first
  exact adjacent own isSection (rule.trans same.symm)

end Ended

structure Turn (line : Nat) (s next : State) (new : List Piece) : Prop where
  rises : ∀ height, floorAt line height s.stack ≤ floorAt line height next.stack
  begins : ∀ q ∈ new, floorAt line q.height s.stack ≤ q.range.start
  ends : ∀ q ∈ new, q.range.stop < line ∧ line ≤ floorAt line q.height next.stack
  levels : new.Pairwise fun p q => p.height ≠ q.height
  distinct : ∀ q ∈ new, ∀ outer ∈ q.under.head?, outer.isSection = true → outer.rule ≠ q.rule
  emitted : ∃ ranges, next.ranges = ranges.reverse ++ s.ranges ∧
    (new.map (·.range)).Sublist ranges
  alternating : Alternating next.stack

theorem begun_eq_nil (shorter : next.stack.length ≤ s.stack.length) : begun g line s next = [] := by
  unfold begun
  split
  · rfl
  · rename_i b under stack
    rw [stack, List.length_cons] at shorter
    rw [if_neg]
    simp
    omega

namespace Turn

theorem quiet (nothing : divided g line s next = [])
    (rises : ∀ height, floorAt line height s.stack ≤ floorAt line height next.stack)
    (emitted : ∃ ranges : List Range, next.ranges = ranges.reverse ++ s.ranges)
    (alternating : Alternating next.stack) : Turn line s next (divided g line s next) := by
  rw [nothing]
  obtain ⟨ranges, same⟩ := emitted
  exact ⟨rises, by simp, by simp, .nil, by simp, ⟨ranges, same, by simp⟩, alternating⟩

theorem unchanged (same : next.stack = s.stack) (ranges : next.ranges = s.ranges)
    (alternating : Alternating s.stack) : Turn line s next (divided g line s next) := by
  refine quiet ?_ (by simp [same]) ⟨[], by simp [ranges]⟩ (same ▸ alternating)
  rw [divided, begun_eq_nil (by simp [same]), ended_of_suffix (by simp [same])]
  rfl

theorem push (plain : b.isSection = false) (fresh : b.start = line)
    (started : ∀ c ∈ s.stack, c.start ≤ line) (alternating : Alternating s.stack)
    (stack : next.stack = b :: s.stack) (ranges : next.ranges = s.ranges) :
    Turn line s next (divided g line s next) := by
  refine quiet ?_ ?_ ⟨[], by simp [ranges]⟩ ?_
  · simp [divided, begun, stack, plain, ended_of_suffix (List.suffix_cons b s.stack)]
  · intro height
    rw [stack]
    exact floorAt_push started fresh
  · rw [stack]
    exact List.isChain_cons.mpr ⟨by simp [plain], alternating⟩

theorem unwind (stack : s.stack = front ++ rest) (shorter : next.stack.length ≤ s.stack.length)
    (settled : ended g line next.stack rest = [])
    (started : ∀ c ∈ s.stack, c.start ≤ line)
    (inside : ∀ height < rest.length, floorAt line height rest ≤ floorAt line height next.stack)
    (outside : ∀ height ≥ rest.length, line ≤ floorAt line height next.stack)
    (emitted : ∃ more, next.ranges = (((front.filter (·.isSection)).flatMap fun b =>
      g.before b.rule b.start line) ++ more).reverse ++ s.ranges)
    (alternating : Alternating s.stack) (left : Alternating next.stack) :
    Turn line s next (divided g line s next) := by
  rw [divided, begun_eq_nil shorter, List.nil_append]
  refine ⟨fun height => ?_, fun q member => ?_, fun q member => ?_, ended_pairwise, ?_, ?_, left⟩
  · rcases Nat.lt_or_ge height rest.length with below | above
    · rw [stack, floorAt_append below]
      exact inside height below
    · exact Nat.le_trans (floorAt_le started) (outside height above)
  · exact Nat.le_of_eq (ended_start member).symm
  · obtain ⟨b, -, -, -, range⟩ := mem_ended member
    have stop := before_stop q.range range
    rw [stack] at member
    exact ⟨by omega, outside _ (le_height_of_ended settled member)⟩
  · exact fun q member => ended_distinct alternating member
  · obtain ⟨more, ranges⟩ := emitted
    refine ⟨_, ranges, ?_⟩
    rw [stack]
    exact (ended_sublist settled).trans (List.sublist_append_left _ _)

/-- The innermost block that is no section begins anew on the line, and the sections in it end. -/
theorem divide (stack : s.stack = front ++ top :: below) (plain : top.isSection = false)
    (started : ∀ c ∈ s.stack, c.start ≤ line) (alternating : Alternating s.stack)
    (divided' : next.stack = { top with start := line } :: below)
    (emitted : ∃ more, next.ranges = (((front.filter (·.isSection)).flatMap fun b =>
      g.before b.rule b.start line) ++ more).reverse ++ s.ranges) :
    Turn line s next (divided g line s next) := by
  have bound : top.start ≤ line := started top (by simp [stack])
  have under := alternating.suffix (stack ▸ List.suffix_append front (top :: below))
  refine unwind stack (by simp [stack, divided']) ?_ started ?_ ?_ emitted alternating ?_
  · rw [divided', ended_cons plain]
    exact ended_of_suffix (List.suffix_cons _ _)
  · intro height inside
    rw [divided']
    exact floorAt_restart bound rfl rfl
  · intro height outside
    rw [List.length_cons] at outside
    rw [divided', floorAt]
    split_ifs with beyond
    · exact Nat.le_refl _
    · exact Nat.le_refl _
    · exact Nat.le_refl _
    · omega
  · rw [divided']
    exact List.isChain_cons.mpr ⟨by simp [plain], (List.isChain_cons.mp under).2⟩

theorem close (stack : s.stack = front ++ top :: below) (plain : top.isSection = false)
    (started : ∀ c ∈ s.stack, c.start ≤ line) (alternating : Alternating s.stack)
    (closed : next.stack = below)
    (emitted : ∃ more, next.ranges = (((front.filter (·.isSection)).flatMap fun b =>
      g.before b.rule b.start line) ++ more).reverse ++ s.ranges) :
    Turn line s next (divided g line s next) := by
  have bound : top.start ≤ line := started top (by simp [stack])
  have under := alternating.suffix (stack ▸ List.suffix_append front (top :: below))
  refine unwind stack (by simp [stack, closed]; omega) ?_ started ?_ ?_ emitted alternating ?_
  · rw [closed, ended_cons plain]
    exact ended_of_suffix (List.suffix_refl _)
  · intro height inside
    rw [closed]
    exact floorAt_pop bound plain
  · intro height outside
    rw [List.length_cons] at outside
    rw [closed, floorAt_beyond (by omega)]
  · rw [closed]
    exact (List.isChain_cons.mp under).2

theorem nextSection (stack : s.stack = top :: below) (isSection : top.isSection = true)
    (started : ∀ c ∈ s.stack, c.start ≤ line) (alternating : Alternating s.stack) :
    Turn line s (s.splitTop g line) (divided g line s (s.splitTop g line)) := by
  have split : (s.splitTop g line).stack = { top with start := line } :: below := by
    rw [State.splitTop_cons stack]
  have alone : s.stack = [top] ++ below := stack
  refine unwind alone (by simp [stack, split]) ?_ started ?_ ?_ ?_ alternating ?_
  · rw [split]
    exact ended_of_suffix (List.suffix_cons _ _)
  · intro height inside
    rw [split, ← List.singleton_append, floorAt_append inside]
  · intro height outside
    rw [split, floorAt]
    split_ifs with beyond first here
    · exact Nat.le_refl _
    · exact Nat.le_refl _
    · exact Nat.le_refl _
    · exact absurd ⟨by omega, isSection⟩ here
  · refine ⟨[], ?_⟩
    rw [State.splitTop_cons stack]
    simp [isSection]
  · rw [stack] at alternating
    rw [split]
    exact List.isChain_cons.mpr (List.isChain_cons.mp alternating)

theorem «section» {rule : Nat} (started : ∀ c ∈ s.stack, c.start ≤ line)
    (other : ∀ top ∈ s.stack.head?, ¬(top.rule = rule ∧ top.isSection = true))
    (alternating : Alternating s.stack) :
    let next := (s.emit (g.before rule s.leading line)).push { rule, start := line, isSection := true }
    Turn line s next (divided g line s next) := by
  intro next
  have stack : next.stack = { rule, start := line, isSection := true } :: s.stack := rfl
  have left : divided g line s next =
      (g.before rule s.leading line).map fun range => ⟨rule, s.stack, range⟩ := by
    rw [divided, stack, ended_of_suffix (List.suffix_cons _ _), begun, stack]
    simp
  have bound : floorAt line s.stack.length s.stack ≤ s.leading := by
    cases whole : s.stack with
    | nil => simp [floorAt]
    | cons top below =>
      rw [floorAt, State.leading, whole]
      simp
  rw [left]
  refine ⟨fun height => ?_, fun q member => ?_, fun q member => ?_, ?_, fun q member => ?_, ?_, ?_⟩
  · rw [stack]
    exact floorAt_push started rfl
  · obtain ⟨range, comesOut, rfl⟩ := List.mem_map.mp member
    rcases before_leaves g rule s.leading line with none | ⟨r, one, start, -⟩
    · simp [none] at comesOut
    · simp only [one, List.mem_singleton] at comesOut
      subst comesOut
      rw [start]
      exact bound
  · obtain ⟨range, comesOut, rfl⟩ := List.mem_map.mp member
    have stop := before_stop range comesOut
    refine ⟨by simp only; omega, ?_⟩
    rw [stack, floorAt]
    simp [Piece.height]
  · rcases before_leaves g rule s.leading line with none | ⟨r, one, -⟩
    · simp [none]
    · simp [one]
  · obtain ⟨range, -, rfl⟩ := List.mem_map.mp member
    exact fun outer first isSection same => other outer first ⟨same, isSection⟩
  · exact ⟨g.before rule s.leading line, rfl, by simp [Function.comp_def]⟩
  · rw [stack]
    exact List.isChain_cons.mpr
      ⟨fun outer first _ isSection same => other outer first ⟨same.symm, isSection⟩, alternating⟩

end Turn

theorem State.owner?_plain {rule : Nat} (h : s.owner? rule = some b) :
    b.isSection = false ∧ ∃ below, s.stack = s.stack.takeWhile (·.isSection) ++ b :: below ∧
      s.stack.dropWhile (·.isSection) = b :: below := by
  unfold State.owner? at h
  split at h
  · contradiction
  · rename_i first below inner
    split at h
    · cases h
      have plain := List.head?_dropWhile_not (fun c : Block => c.isSection) s.stack
      rw [inner] at plain
      exact ⟨plain, below, inner ▸ List.takeWhile_append_dropWhile.symm, inner⟩
    · contradiction

theorem State.endSections_ranges (s : State) (g : Grammar) (line : Nat) :
    (s.endSections g line).ranges =
      (((s.stack.takeWhile (·.isSection)).filter (·.isSection)).flatMap fun b =>
        g.before b.rule b.start line).reverse ++ s.ranges := by
  rw [List.filter_eq_self.mpr (List.all_eq_true.mp List.all_takeWhile)]
  rfl

theorem Fits.plain {r : CompiledRule} (fits : Fits g b) (known : g.rules[b.rule]? = some r)
    (shape : r.shape ≠ .separator) : b.isSection = false :=
  Bool.eq_false_iff.mpr fun isSection => shape ((fits r known).1.mp isSection)

theorem Move.turn {found : MarkerMatch} {resume : Option Nat}
    (move : Move g line text s found next resume) (started : ∀ c ∈ s.stack, c.start ≤ line)
    (shaped : Shaped g s) (alternating : Alternating s.stack)
    (fitting : ∃ r, g.rules[found.rule]? = some r ∧ found.role ∈ r.roles) :
    Turn line s next (divided g line s next) := by
  obtain ⟨own, ownKnown, ownRole⟩ := fitting
  cases move with
  | pass => exact .unchanged rfl rfl alternating
  | pair r expected => exact .push rfl rfl started alternating rfl rfl
  | chain r => exact .push rfl rfl started alternating rfl rfl
  | docstring => exact .push rfl rfl started alternating rfl rfl
  | «section» _ _ other => exact .section started other alternating
  | nextSection top below _ stack _ isSection =>
    exact .nextSection stack isSection started alternating
  | split owner _ owned =>
    obtain ⟨plain, below, stack, inner⟩ := State.owner?_plain owned
    have rest : (s.endSections g line).stack = owner :: below := inner
    rw [State.splitTop_cons rest, State.endSections_ranges]
    exact .divide stack plain started alternating rfl ⟨g.before owner.rule owner.start line, by simp⟩
  | close owner _ owned =>
    obtain ⟨plain, below, stack, inner⟩ := State.owner?_plain owned
    have rest : (s.endSections g line).stack = owner :: below := inner
    rw [State.closeTop_cons rest, State.endSections_ranges]
    exact .close stack plain started alternating rfl ⟨g.closed owner line, by simp⟩
  | goOn top below role stack same =>
    have plain : top.isSection = false := by
      refine (shaped.fits top (by simp [stack])).plain (same ▸ ownKnown) ?_
      have chain := (CompiledRule.continuation_mem_roles own).mp (role ▸ ownRole)
      simp [of_decide_eq_true chain]
    have under := List.isChain_cons.mp (stack ▸ alternating)
    refine .quiet ?_ (fun height => ?_) ⟨[], rfl⟩ (List.isChain_cons.mpr ⟨by simp [plain], under.2⟩)
    · rw [divided, begun_eq_nil (by simp [stack]), stack, ended_cons plain,
        ended_of_suffix (List.suffix_cons _ _)]
      rfl
    · rw [stack, floorAt, floorAt]

theorem Inside.turn {found : UnnestedMatch} {resume : Option Nat} {rule : Nat}
    (move : Inside g line text s found next resume) (started : ∀ c ∈ s.stack, c.start ≤ line)
    (shaped : Shaped g s) (alternating : Alternating s.stack) (mode : s.mode = .unnested rule) :
    Turn line s next (divided g line s next) := by
  obtain ⟨owner, rest, stack, -, r, known, paired, -⟩ := (shaped.alone rule).mp mode
  have plain : owner.isSection = false :=
    (shaped.fits owner (by simp [stack])).plain known (by simp [paired])
  have noSections : s.stack = [] ++ owner :: rest := stack
  cases move with
  | empty => exact .unchanged rfl rfl alternating
  | split top below same =>
    cases stack.symm.trans same
    rw [State.splitTop_cons stack]
    exact .divide noSections plain started alternating rfl ⟨_, rfl⟩
  | close top below _ same =>
    cases stack.symm.trans same
    rw [State.closeTop_cons stack]
    exact .close noSections plain started alternating rfl ⟨_, rfl⟩
  | refuse => exact .unchanged rfl rfl alternating

theorem LineEnd.turn (ending : LineEnd g line s next) (started : ∀ c ∈ s.stack, c.start ≤ line)
    (shaped : Shaped g s) (alternating : Alternating s.stack) :
    Turn line s next (divided g line s next) := by
  have plain (top : Block) (below : List Block) (stack : s.stack = top :: below)
      (chain : g.isContinuation top.rule = true) : top.isSection = false := by
    unfold Grammar.isContinuation at chain
    split at chain
    · rename_i r known
      refine (shaped.fits top (by simp [stack])).plain known ?_
      simp [of_decide_eq_true chain]
    · cases chain
  cases ending with
  | pass => exact .unchanged rfl rfl alternating
  | close top below _ stack chain =>
    have noSections : s.stack = [] ++ top :: below := stack
    have isPlain := plain top below stack chain
    rw [State.closeTop_cons stack]
    exact .close noSections isPlain started alternating rfl ⟨_, rfl⟩
  | drop top below stack chain =>
    have noSections : s.stack = [] ++ top :: below := stack
    exact .close noSections (plain top below stack chain) started alternating rfl ⟨[], rfl⟩

structure Pieced (g : Grammar) (line : Nat) (s : State) (left : List Piece) : Prop where
  stacked : Stacked g line s.stack
  shaped : Shaped g s
  alternating : Alternating s.stack
  ended : ∀ p ∈ left, p.range.stop < floorAt line p.height s.stack
  apart : left.Pairwise fun p q => p.height = q.height → p.range.stop < q.range.start
  distinct : ∀ p ∈ left, ∀ outer ∈ p.under.head?, outer.isSection = true → outer.rule ≠ p.rule
  emitted : (left.map (·.range)).Sublist s.ranges.reverse

namespace Pieced

variable {left new : List Piece}

theorem turn (pieced : Pieced g line s left) (turn : Turn line s next new)
    (stacked : Stacked g line next.stack) (shaped : Shaped g next) :
    Pieced g line next (left ++ new) := by
  refine ⟨stacked, shaped, turn.alternating, ?_, ?_, ?_, ?_⟩
  · intro p member
    rcases List.mem_append.mp member with old | fresh
    · exact Nat.lt_of_lt_of_le (pieced.ended p old) (turn.rises _)
    · exact Nat.lt_of_lt_of_le (turn.ends p fresh).1 (turn.ends p fresh).2
  · refine List.pairwise_append.mpr ⟨pieced.apart, ?_, fun p old q fresh same => ?_⟩
    · exact turn.levels.imp fun differ same => absurd same differ
    · have bound := turn.begins q fresh
      rw [← same] at bound
      exact Nat.lt_of_lt_of_le (pieced.ended p old) bound
  · intro p member
    exact (List.mem_append.mp member).elim (pieced.distinct p) (turn.distinct p)
  · obtain ⟨ranges, same, comeOut⟩ := turn.emitted
    rw [List.map_append, same, List.reverse_append, List.reverse_reverse]
    exact pieced.emitted.append comeOut

theorem step (pieced : Pieced g line s left) (closed : g.Closed) (fitting : g.Fitting) {further : Nat}
    (stepped : step g line text s place = some (next, further)) :
    Pieced g line next (left ++ divided g line s next) := by
  have started := pieced.stacked.started
  refine pieced.turn ?_ (step_stacked closed pieced.stacked stepped)
    (step_shaped fitting pieced.stacked pieced.shaped stepped)
  rcases step_cases stepped with ⟨found, _, _, atPlace, move, _⟩ |
    ⟨_, _, _, _, mode, _, _, move, _⟩
  · exact move.turn started pieced.shaped pieced.alternating (fitting _ _ _ atPlace)
  · exact move.turn started pieced.shaped pieced.alternating mode

theorem steps (pieced : Pieced g line s left) (closed : g.Closed) (fitting : g.Fitting) (text : Line)
    (count place : Nat) :
    Pieced g line (steps g line text count s place) (left ++ stepsPieces g line text count s place) := by
  induction count generalizing s left place with
  | zero => simpa [Fold.steps, stepsPieces] using pieced
  | succ count ih =>
    simp only [Fold.steps, stepsPieces]
    by_cases inside : place ≤ text.size
    · simp only [if_pos inside]
      cases stepped : Fold.step g line text s place with
      | none => simpa using pieced
      | some behind =>
        simp only [← List.append_assoc]
        exact ih (pieced.step closed fitting stepped) behind.2
    · simpa [inside] using pieced

theorem endLine (pieced : Pieced g line s left) :
    Pieced g (line + 1) (s.endLine g line) (left ++ divided g line s (s.endLine g line)) := by
  have ending := endLine_lineEnd g line s
  have turn := ending.turn pieced.stacked.started pieced.shaped pieced.alternating
  obtain ⟨stacked, shaped, alternating, ended, apart, distinct, emitted⟩ :=
    pieced.turn turn (ending.stacked pieced.stacked) (ending.shaped pieced.stacked pieced.shaped)
  exact ⟨stacked.later, shaped, alternating,
    fun p member => Nat.lt_of_lt_of_le (ended p member) floorAt_later, apart, distinct, emitted⟩

theorem lines (pieced : Pieced g line s left) (closed : g.Closed) (fitting : g.Fitting)
    (document : Document) :
    Pieced g (line + document.length) (readLines g line document s)
      (left ++ linesPieces g line document s) := by
  induction document generalizing line s left with
  | nil => simpa [readLines, linesPieces] using pieced
  | cons text rest ih =>
    have read := pieced.steps closed fitting text (text.size + 1) 0
    have whole := ih read.endLine
    simp only [readLines, linesPieces, List.length_cons]
    rw [Nat.add_comm rest.length, ← Nat.add_assoc, ← List.append_assoc, ← List.append_assoc]
    exact whole

theorem start : Pieced g 0 .start [] :=
  ⟨.nil, start_shaped, .nil, by simp, .nil, by simp, by simp⟩

end Pieced

theorem Reaches.alternating (closed : g.Closed) (fitting : g.Fitting)
    (h : Reaches g document line place s) : Alternating s.stack := by
  refine (reaches_invariant (P := fun line s => Pieced g line s []) .start ?_ ?_ h).alternating
  · intro line text s place next further pieced stepped
    obtain ⟨stacked, shaped, alternating, -⟩ := pieced.step closed fitting stepped
    exact ⟨stacked, shaped, alternating, by simp, .nil, by simp, by simp⟩
  · intro line s pieced
    obtain ⟨stacked, shaped, alternating, -⟩ := pieced.endLine
    exact ⟨stacked, shaped, alternating, by simp, .nil, by simp, by simp⟩

theorem pieces_valid (closed : g.Closed) (fitting : g.Fitting) (document : Document) :
    ((pieces g document).map (·.range)).Sublist (run g document) ∧
    ((pieces g document).Pairwise fun p q => p.height = q.height → p.range.stop < q.range.start) ∧
    ∀ p ∈ pieces g document, ∀ outer ∈ p.under.head?, outer.isSection = true → outer.rule ≠ p.rule := by
  have read := Pieced.start.lines closed fitting document
  have whole : before g document document.length = readLines g 0 document .start := by
    rw [before, List.take_length]
  rw [List.nil_append, Nat.zero_add, ← whole] at read
  rw [run_eq_finish, pieces]
  refine ⟨?_, ?_, ?_⟩
  · have flushed := @ended_sublist g document.length [] (before g document document.length).stack [] rfl
    rw [List.append_nil] at flushed
    simp only [State.finish, State.emit_ranges, List.reverse_append, List.reverse_reverse,
      List.map_append]
    exact read.emitted.append flushed
  · refine List.pairwise_append.mpr ⟨read.apart, ?_, fun p old q flushed same => ?_⟩
    · exact ended_pairwise.imp fun differ same => absurd same differ
    · rw [ended_start flushed, ← same]
      exact read.ended p old
  · intro p member
    exact (List.mem_append.mp member).elim (read.distinct p) (ended_distinct read.alternating)

theorem Piece.enclosing_length {p : Piece}
    (distinct : ∀ outer ∈ p.under.head?, outer.isSection = true → outer.rule ≠ p.rule)
    (direct : ¬p.Inset) : p.enclosing.length = p.height := by
  unfold Piece.enclosing Piece.height
  cases under : p.under with
  | nil => rfl
  | cons outer rest =>
    have first : outer ∈ p.under.head? := by simp [under]
    have plain : ¬outer.isSection = true := fun isSection =>
      direct ⟨outer, first, isSection, distinct outer first isSection⟩
    rw [List.dropWhile_cons_of_neg plain]

end Fold

namespace RuleSet

open Fold

/-- Sections that lie directly in each other belong to different rules. What separators leave are ranges
of the document, and at one height of the stack these lie one behind the other. So two of them that
separators of one rule leave in one block lie one behind the other, unless a section of another rule
lies around one of them. -/
theorem sections_apart {rules : List Rule} {m : Master} (combined : (compile rules).master = some m)
    (free : ∀ a ∈ (compile rules).candidates, a.pattern.verboseFree = true) (document : Document) :
    (∀ line place s, Reaches ((compile rules).grammar m) document line place s →
      Alternating s.stack) ∧
    ((pieces ((compile rules).grammar m) document).map (·.range)).Sublist
      ((compile rules).fold document) ∧
    (pieces ((compile rules).grammar m) document).Pairwise fun p q =>
      (p.height = q.height → p.range.stop < q.range.start) ∧
      (p.rule = q.rule → p.enclosing.length = q.enclosing.length →
        p.range.stop < q.range.start ∨ p.Inset ∨ q.Inset) := by
  have closed : ((compile rules).grammar m).Closed := compile_closed combined
  have fitting := compile_fitting combined free
  have folded := fold_eq_run combined document
  obtain ⟨emitted, apart, distinct⟩ := pieces_valid closed fitting document
  refine ⟨fun line place s reached => reached.alternating closed fitting, folded ▸ emitted, ?_⟩
  refine apart.imp_of_mem fun {p q} first later inTurn => ⟨inTurn, fun _ same => ?_⟩
  by_cases pInset : p.Inset
  · exact .inr (.inl pInset)
  by_cases qInset : q.Inset
  · exact .inr (.inr qInset)
  rw [Piece.enclosing_length (distinct p first) pInset,
    Piece.enclosing_length (distinct q later) qInset] at same
  exact .inl (inTurn same)

def headingRules : List Rule :=
  [{ separator := { regex := some "^# " } }, { separator := { regex := some "^## " } }]

set_option maxRecDepth 100000 in
/-- Two sections inside the section of a heading, and that section itself. -/
theorem sections_apart_in_heading :
    ∃ m, (compile headingRules).master = some m ∧
      ((pieces ((compile headingRules).grammar m) (.ofLines ["# a", "## b", "x", "## c", "y"])).map
        fun p => (p.rule, p.range.start, p.range.stop)) = [(1, 1, 2), (1, 3, 4), (0, 0, 4)] ∧
      ((pieces ((compile headingRules).grammar m) (.ofLines ["# a", "## b", "x", "## c", "y"])).map
        (·.range)).Sublist ((compile headingRules).fold (.ofLines ["# a", "## b", "x", "## c", "y"])) := by
  have evaluated : ∃ m ∈ (compile headingRules).master,
      ((pieces ((compile headingRules).grammar m) (.ofLines ["# a", "## b", "x", "## c", "y"])).map
        fun p => (p.rule, p.range.start, p.range.stop)) = [(1, 1, 2), (1, 3, 4), (0, 0, 4)] := by
    decide +kernel
  have free : ∀ a ∈ (compile headingRules).candidates, a.pattern.verboseFree = true := by
    decide +kernel
  obtain ⟨m, combined, left⟩ := evaluated
  obtain ⟨-, emitted, -⟩ := sections_apart combined free (.ofLines ["# a", "## b", "x", "## c", "y"])
  exact ⟨m, combined, left, emitted⟩

set_option maxRecDepth 100000 in
/-- A heading below another level does not end the section of its own rule: two of its sections are open
at the bottom of the stack, and their ranges overlap. -/
theorem sections_overlap_below_heading :
    ∃ m ∈ (compile headingRules).master,
      ((before ((compile headingRules).grammar m) (.ofLines ["# a", "## b", "# c", "d"]) 3).stack.map
        fun b => (b.rule, b.start, b.isSection)) = [(0, 2, true), (1, 1, true), (0, 0, true)] ∧
      (compile headingRules).fold (.ofLines ["# a", "## b", "# c", "d"]) =
        [⟨2, 3, .region⟩, ⟨1, 3, .region⟩, ⟨0, 3, .region⟩] := by
  decide +kernel

end RuleSet

end Foldmark
