import Foldmark.Proofs.Rule.Literal
import Foldmark.Proofs.Text.Line

/-! Closing markers that repeat texts. A closing marker that is written as texts and back-references is divided into
them, if it can be told where each one ends. When the back-references are filled in it becomes a pattern for one
text, whatever characters were captured. That pattern is searched for from a place on and has to be found
there, which is to say that the text stands at the place. -/
namespace Foldmark

namespace Pattern

def Ast.StandsFor (item : Ast) (chars : List Char) : Prop :=
  ∃ node, nodeOf {} item = .ok (node, {}) ∧ node.StandsFor chars

/-- Trees that mean the parts of a text, one after the other. -/
inductive SpelledBy : List Char → List Ast → Prop
  | nil : SpelledBy [] []
  | cons {item : Ast} {items : List Ast} {chars others : List Char} :
    item.StandsFor chars → SpelledBy others items → SpelledBy (chars ++ others) (item :: items)

variable {source further chars others : List Char} {items more : List Ast}

theorem SpelledBy.append (first : SpelledBy chars items) (second : SpelledBy others more) :
    SpelledBy (chars ++ others) (items ++ more) := by
  induction first with
  | nil => exact second
  | cons item _ ih =>
    rw [List.append_assoc]
    exact .cons item ih

theorem SpelledBy.text (text : List Char) : SpelledBy text (text.map plainChar) := by
  induction text with
  | nil => exact .nil
  | cons c rest ih => exact .cons ⟨.char c, nodeOf_plainChar c, .char c⟩ ih

theorem nodeOf_ofItems (f : Flags) (items : List Ast) : nodeOf f (Ast.ofItems items) = nodeOf.sequence f items := by
  cases items with
  | nil => rfl
  | cons item rest => cases rest <;> rfl

theorem SpelledBy.ofItems (spelled : SpelledBy chars items) : (Ast.ofItems items).StandsFor chars := by
  rw [Ast.StandsFor, nodeOf_ofItems]
  induction spelled with
  | nil => exact ⟨.empty, rfl, .empty⟩
  | @cons item rest chars others first tail ih =>
    obtain ⟨a, means, stands⟩ := first
    obtain ⟨b, further, behind⟩ := ih
    cases tail with
    | nil => exact ⟨a, means, by rwa [List.append_nil]⟩
    | cons =>
      refine ⟨.cat a b, ?_, stands.cat behind⟩
      rw [nodeOf.sequence, bind_of_ok means]
      · simp only
        rw [bind_of_ok further]
        rfl
      · simp

theorem step_plainGroup {b : Builder} (now : b.verbose = false) (rest : List Char) :
    step b '(' ('?' :: ':' :: rest) = .ok (b.enter (.plain []), rest) := by
  simp only [step, now]
  rfl

theorem Reads.enclose (reads : Reads source items) :
    Reads (ExpectedEnd.enclose source) [.group (.plain []) (Ast.ofItems items)] := by
  intro b rest now
  have written : ExpectedEnd.enclose source ++ rest = '(' :: '?' :: ':' :: (source ++ ')' :: rest) := by
    simp [ExpectedEnd.enclose]
  have inside : ((b.enter (.plain [])).addAll items).verbose = false := now
  have left : step ((b.enter (.plain [])).addAll items) ')' rest =
      .ok (b.addAll [.group (.plain []) (Ast.ofItems items)], rest) := by
    simp [step, Builder.enter, Builder.leave, Builder.addAll, Builder.body, Ast.ofBranches, bind, Except.bind,
      pure, Except.pure]
  rw [written, run_cons now (step_plainGroup now _) (by simp only [List.length_cons]; omega),
    reads (b.enter (.plain [])) _ now, run_cons inside left (by simp)]

/-- A source that means one text, whatever stands around it. -/
def Means (source chars : List Char) : Prop := ∃ items, Reads source items ∧ SpelledBy chars items

namespace Means

theorem nil : Means [] [] := ⟨[], .nil, .nil⟩

theorem append (first : Means source chars) (second : Means further others) :
    Means (source ++ further) (chars ++ others) := by
  obtain ⟨items, reads, spelled⟩ := first
  obtain ⟨more, readsMore, spelledMore⟩ := second
  exact ⟨items ++ more, reads.append readsMore, spelled.append spelledMore⟩

theorem quote (text : List Char) : Means (Pattern.quote text) text :=
  ⟨text.map plainChar, .quote text, .text text⟩

theorem enclose (means : Means source chars) : Means (ExpectedEnd.enclose source) chars := by
  obtain ⟨items, reads, spelled⟩ := means
  obtain ⟨node, settled, stands⟩ := spelled.ofItems
  have group : (Ast.group (.plain []) (Ast.ofItems items)).StandsFor chars := by
    refine ⟨node, ?_, stands⟩
    rw [nodeOf, Flags.changeAll, List.foldl_nil, bind_of_ok settled]
    rfl
  exact ⟨_, reads.enclose, List.append_nil chars ▸ .cons group .nil⟩

theorem node (means : Means source chars) {node : Node} (compiled : compileChars source = .ok node) :
    node.StandsFor chars := by
  obtain ⟨items, reads, spelled⟩ := means
  obtain ⟨own, settled, stands⟩ := spelled.ofItems
  obtain ⟨ast, flags, read, -, -, settled', -⟩ := compileChars_eq_ok.mp compiled
  cases reads.parse.symm.trans read
  cases settled.symm.trans settled'
  exact stands

end Means

end Pattern

namespace ExpectedEnd

theorem compiles_of_node {source : List Char} {node : Pattern.Node} (compiled : (ofSource source).node = some node) :
    Pattern.compileChars (enclose source) = .ok node := by
  rw [ofSource] at compiled
  cases read : Pattern.compileChars (enclose source) with
  | error reason => simp [read, Except.toOption] at compiled
  | ok own =>
    rw [read] at compiled
    exact congrArg Except.ok (Option.some.inj compiled)

theorem matchAt_node {e : ExpectedEnd} {node : Pattern.Node} (compiled : e.node = some node) {line : Line}
    {start : Nat} (inside : start ≤ line.size) :
    e.matchAt line start = (node.matchAt line start).map (·.stop) := by
  simp only [ExpectedEnd.matchAt, compiled]
  cases here : node.matchAt line start with
  | some found =>
    have place := Pattern.Node.matchAt_start here
    have searched : node.search line start = some found :=
      Pattern.Node.search_eq_some.mpr ⟨by omega, by omega, place.symm ▸ here, fun further above below => by omega⟩
    simp [searched, place]
  | none =>
    cases searched : node.search line start with
    | none => rfl
    | some found => simp [Pattern.Node.start_ne_of_search searched here]

end ExpectedEnd

namespace Mirror

theorem foldr_push {chars : List Char} (occupied : chars ≠ []) {parts : List MirrorPart}
    (apart : ∀ more, parts.head? ≠ some (.source more)) :
    chars.foldr push parts = .source chars :: parts := by
  induction chars with
  | nil => exact absurd rfl occupied
  | cons c rest ih =>
    rw [List.foldr_cons]
    cases rest with
    | nil =>
      cases parts with
      | nil => rfl
      | cons part parts =>
        cases part with
        | source more => exact absurd rfl (apart more)
        | group number => rfl
    | cons d rest =>
      rw [ih (List.cons_ne_nil d rest)]
      rfl

theorem digitChar_reference : ∀ digit < 10, digit.digitChar.isDigit = true ∧ digit.digitChar.toNat - 48 = digit ∧
    (0 < digit → isReferenceStart digit.digitChar = true) := by decide

theorem divide_reference {number : Nat} (positive : 0 < number) (short : number < 100) {rest : List Char}
    (ends : number < 10 → ∀ d ∈ rest.head?, d.isDigit = false) :
    divide ('\\' :: (Nat.toDigits 10 number ++ rest)) = .group number :: divide rest := by
  by_cases single : number < 10
  · obtain ⟨-, value, start⟩ := digitChar_reference number single
    rw [Nat.toDigits_of_lt_base single, List.singleton_append, divide.eq_def]
    cases rest with
    | nil => simp [start positive, value, divide_nil]
    | cons d rest => simp [start positive, value, ends single d rfl]
  · obtain ⟨-, tens, start⟩ := digitChar_reference (number / 10) (by omega)
    obtain ⟨digit, ones, -⟩ := digitChar_reference (number % 10) (by omega)
    have digits : Nat.toDigits 10 number = [(number / 10).digitChar, (number % 10).digitChar] := by
      rw [Nat.toDigits_of_base_le (by decide) (by omega), Nat.toDigits_of_lt_base (by omega)]
      rfl
    rw [digits, divide.eq_def]
    simp [start (by omega), digit, tens, ones]
    omega

/-- A part of a closing marker that is either a text or a back-reference. -/
inductive Piece
  | text (chars : List Char)
  | group (number : Nat)
deriving DecidableEq, Repr

namespace Piece

def part : Piece → MirrorPart
  | .text chars => .source (Pattern.quote chars)
  | .group number => .group number

def source : Piece → List Char
  | .text chars => Pattern.quote chars
  | .group number => '\\' :: Nat.toDigits 10 number

/-- A piece can be told from what is written behind it. No text is empty or in front of another one, and behind a
reference of one digit no text begins with a digit. -/
def Parted : Piece → List Piece → Prop
  | .text chars, behind => chars ≠ [] ∧ ∀ more, behind.head? ≠ some (.text more)
  | .group number, behind => 0 < number ∧ number < 100 ∧
    (number < 10 → ∀ c more, behind.head? = some (.text (c :: more)) → c.isDigit = false)

/-- What a part stands for when groups have captured texts. A group that took no part stands for the empty text. -/
def spelled (group : Nat → Option (List Char)) : Piece → List Char
  | .text chars => chars
  | .group number => (group number).getD []

end Piece

variable {m : Mirror} {pieces : List Piece}

inductive Parted : List Piece → Prop
  | nil : Parted []
  | cons {piece : Piece} {behind : List Piece} : piece.Parted behind → Parted behind → Parted (piece :: behind)

theorem head?_source {behind : List Piece} (parted : Parted behind)
    (apart : ∀ c more, behind.head? = some (.text (c :: more)) → c.isDigit = false) :
    ∀ d ∈ (behind.flatMap Piece.source).head?, d.isDigit = false := by
  cases parted with
  | nil => simp
  | @cons piece behind own others =>
    cases piece with
    | group number =>
      intro d first
      cases first
      rfl
    | text chars =>
      obtain ⟨c, rest, rfl⟩ := List.exists_cons_of_ne_nil own.1
      have plain := apart c rest rfl
      intro d first
      rw [List.flatMap_cons, Piece.source, Pattern.quote] at first
      split at first
      · cases first
        rfl
      · cases first
        exact plain

theorem divide_source (parted : Parted pieces) :
    divide (pieces.flatMap Piece.source) = pieces.map Piece.part := by
  induction parted with
  | nil => exact divide_nil
  | @cons piece behind own others ih =>
    rw [List.flatMap_cons, List.map_cons, ← ih]
    cases piece with
    | text chars =>
      have written : Pattern.quote chars ≠ [] := by
        obtain ⟨c, rest, rfl⟩ := List.exists_cons_of_ne_nil own.1
        rw [Pattern.quote]
        split <;> exact List.cons_ne_nil _ _
      rw [Piece.source, divide_quote_append]
      refine foldr_push written fun more first => ?_
      rw [ih, List.head?_map] at first
      obtain ⟨next, here, same⟩ := Option.map_eq_some_iff.mp first
      cases next with
      | text others => exact own.2 others here
      | group number => cases same
    | group number =>
      exact divide_reference own.1 own.2.1 fun single => head?_source others (own.2.2 single)

theorem ofSource?_source (parted : Parted pieces) {number : Nat} (refers : .group number ∈ pieces) :
    (ofSource? (String.ofList (pieces.flatMap Piece.source))).map parts = some (pieces.map Piece.part) := by
  have group : (pieces.map Piece.part).any isGroup = true :=
    List.any_eq_true.mpr ⟨.group number, List.mem_map_of_mem refers, rfl⟩
  rw [ofSource?, String.toList_ofList, divide_source parted]
  simp [group]

theorem fill_means (split : m.parts = pieces.map Piece.part) (group : Nat → Option (List Char)) :
    Pattern.Means (m.fill fun number => ExpectedEnd.enclose (Pattern.quote ((group number).getD [])))
      (pieces.flatMap (Piece.spelled group)) := by
  rw [fill, split]
  clear split
  induction pieces with
  | nil => exact .nil
  | cons piece rest ih =>
    rw [List.map_cons, List.flatMap_cons, List.flatMap_cons]
    cases piece with
    | text chars => exact (Pattern.Means.quote chars).append ih
    | group number => exact (Pattern.Means.quote _).enclose.append ih

theorem matchAt_expect (split : m.parts = pieces.map Piece.part) (group : Nat → Option (List Char))
    (compiles : (m.expect group).node.isSome = true) {line : Line} {start : Nat} (inside : start ≤ line.size) :
    (m.expect group).matchAt line start =
      if (pieces.flatMap (Piece.spelled group)).isPrefixOf (line.toList.drop start) then
        some (start + (pieces.flatMap (Piece.spelled group)).length)
      else none := by
  obtain ⟨node, compiled⟩ := Option.isSome_iff_exists.mp compiles
  have settled := ExpectedEnd.compiles_of_node compiled
  rw [ExpectedEnd.matchAt_node compiled inside, ((fill_means split group).enclose.node settled).matchAt]
  split <;> rfl

/-- A closing marker that is divided into texts and back-references is expected with the captured texts in the place
of the references. Wherever a line is looked at, whatever was captured, it is found just when this text stands
there, and then it ends behind the bytes of the text. -/
theorem expect_accepts_iff {source : String}
    (split : (ofSource? source).map parts = some (pieces.map Piece.part)) :
    ∃ m, ofSource? source = some m ∧
      ∀ group, (m.expect group).node.isSome = true →
        ∀ (line : Line) (bytes start : Nat), line.place? bytes = some start → ∀ stop,
          (((m.expect group).matchAt line start).map line.byteOffset = some stop ↔
            pieces.flatMap (Piece.spelled group) <+: line.toList.drop start ∧
              stop = bytes + Line.byteCount (pieces.flatMap (Piece.spelled group))) := by
  obtain ⟨m, read, split⟩ := Option.map_eq_some_iff.mp split
  refine ⟨m, read, fun group compiles line bytes start found stop => ?_⟩
  obtain ⟨inside, rfl⟩ := Line.place?_eq_some found
  rw [matchAt_expect split group compiles inside]
  by_cases stands : pieces.flatMap (Piece.spelled group) <+: line.toList.drop start
  · rw [if_pos (List.isPrefixOf_iff_prefix.mpr stands), Option.map_some, Line.byteOffset_add stands]
    simp [stands, eq_comm]
  · rw [if_neg fun here => stands (List.isPrefixOf_iff_prefix.mp here)]
    simp [stands]

/-- A closing tag with a hyphen, which is written behind a backslash, and two references. -/
def closingTag : List Piece := [.text ['<', '/'], .group 1, .text ['-'], .group 2, .text ['>']]

theorem closingTag_parted : Parted closingTag := by
  refine .cons ?_ (.cons ?_ (.cons ?_ (.cons ?_ (.cons ?_ .nil)))) <;> simp [Piece.Parted]

/-- What was captured looks like a pattern; the second group took no part. -/
def starred : Nat → Option (List Char)
  | 1 => some ['a', '.', '*']
  | _ => none

/-- Lines that begin with a character of two bytes. The pattern that was captured would match in both. -/
def repeated : Line := Line.ofString "é</a.*->"

def matched : Line := Line.ofString "é</abc->"

set_option maxRecDepth 100000 in
/-- The tag is found where its text stands, and not where the pattern would match. -/
theorem expect_accepts_iff_starred :
    ∃ m, ofSource? "</\\1\\-\\2>" = some m ∧
      ((m.expect starred).matchAt repeated 1).map repeated.byteOffset = some 9 ∧
      ∀ stop, ((m.expect starred).matchAt matched 1).map matched.byteOffset ≠ some stop := by
  have written : "</\\1\\-\\2>" = String.ofList (closingTag.flatMap Piece.source) := by decide +kernel
  have split := ofSource?_source closingTag_parted (by decide : .group 1 ∈ closingTag)
  rw [← written] at split
  have compiles : ∀ m ∈ ofSource? "</\\1\\-\\2>", (m.expect starred).node.isSome = true := by decide +kernel
  obtain ⟨m, read, accepts⟩ := expect_accepts_iff split
  have accepts := accepts starred (compiles m read)
  refine ⟨m, read, (accepts repeated 2 1 (by decide +kernel) 9).mpr (by decide +kernel), fun stop found => ?_⟩
  have stands := ((accepts matched 2 1 (by decide +kernel) stop).mp found).1
  exact absurd stands (by decide +kernel)

end Mirror

end Foldmark
