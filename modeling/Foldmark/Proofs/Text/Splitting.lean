import Foldmark.Text.Line

/-! How texts are split into lines. Line feeds are where a text is split, and a carriage return in front of one belongs
to it. Written with what ended them the lines are the text again, up to a carriage return at its very end: nothing
ends the last line, but a return is dropped there as well. -/
namespace Foldmark

inductive Terminator
  | feed
  | returnFeed
deriving DecidableEq, Repr

def Terminator.text : Terminator → String
  | .feed => "\n"
  | .returnFeed => "\r\n"

/-- Lines one after the other, each with what ends it and the last one as it is. -/
def writeLines : List String → List Terminator → String
  | line :: lines, ending :: endings => line ++ ending.text ++ writeLines lines endings
  | line :: _, [] => line
  | [], _ => ""

/-- All lines but the last are ended. A return in front of a line feed belongs to what ends the line. -/
inductive Terminates : List String → List Terminator → Prop
  | last (line : String) : Terminates [line] []
  | more {line : String} {ending : Terminator} {lines : List String} {endings : List Terminator} :
    (ending = .feed → line.toList.getLast? ≠ some '\r') → Terminates lines endings →
    Terminates (line :: lines) (ending :: endings)

def lostReturn (chars : List Char) : List Char := if chars.getLast? = some '\r' then ['\r'] else []

variable {chars : List Char} {pieces : List (List Char)}

theorem splitFeeds_eq (chars : List Char) : splitFeeds chars = chars.splitOn '\n' := by
  induction chars with
  | nil => rfl
  | cons c rest ih =>
    rw [splitFeeds, List.splitOn_cons_eq_if_modifyHead, ← ih]
    by_cases feed : c = '\n'
    · simp [feed]
    · simp only [feed, if_false, beq_iff_eq]
      cases split : splitFeeds rest with
      | nil => exact absurd (ih.symm.trans split) (List.splitOn_ne_nil _ _)
      | cons first others => rfl

theorem splitFeeds_ne_nil (chars : List Char) : splitFeeds chars ≠ [] :=
  splitFeeds_eq chars ▸ List.splitOn_ne_nil _ _

theorem intercalate_splitFeeds (chars : List Char) : ['\n'].intercalate (splitFeeds chars) = chars := by
  rw [splitFeeds_eq, List.intercalate_splitOn]

theorem splitFeeds_cons {c : Char} (other : c ≠ '\n') (rest : List Char) :
    ∃ first others, splitFeeds rest = first :: others ∧ splitFeeds (c :: rest) = (c :: first) :: others := by
  obtain ⟨first, others, split⟩ := List.exists_cons_of_ne_nil (splitFeeds_ne_nil rest)
  exact ⟨first, others, split, by simp [splitFeeds, other, split]⟩

theorem feed_notMem_splitFeeds (chars : List Char) : ∀ piece ∈ splitFeeds chars, '\n' ∉ piece := by
  induction chars with
  | nil => simp [splitFeeds]
  | cons c rest ih =>
    by_cases feed : c = '\n'
    · simpa [splitFeeds, feed] using ih
    · obtain ⟨first, others, split, longer⟩ := splitFeeds_cons feed rest
      rw [split] at ih
      rw [longer]
      simpa [Ne.symm feed] using ih

theorem length_splitFeeds (chars : List Char) : (splitFeeds chars).length = chars.count '\n' + 1 := by
  induction chars with
  | nil => rfl
  | cons c rest ih =>
    by_cases feed : c = '\n'
    · simp [splitFeeds, feed, ih]
    · obtain ⟨first, others, split, longer⟩ := splitFeeds_cons feed rest
      rw [split] at ih
      simpa [longer, feed] using ih

theorem dropReturn_append (chars : List Char) : dropReturn chars ++ lostReturn chars = chars := by
  fun_induction dropReturn chars with
  | case1 => rfl
  | case2 => rfl
  | case3 c rest other ih =>
    have same : lostReturn (c :: rest) = lostReturn rest := by
      cases rest with
      | nil => simpa [lostReturn] using fun alone => other alone rfl
      | cons d rest => rw [lostReturn, List.getLast?_cons_cons, lostReturn]
    rw [same, List.cons_append, ih]

theorem feed_notMem_dropReturn (plain : '\n' ∉ chars) : '\n' ∉ dropReturn chars := by
  rw [← dropReturn_append chars] at plain
  exact fun member => plain (List.mem_append_left _ member)

theorem lostReturn_append_feed (chars rest : List Char) : lostReturn (chars ++ '\n' :: rest) = lostReturn rest := by
  simp only [lostReturn, List.getLast?_append, List.getLast?_cons]
  cases rest.getLast? <;> simp

def linesOf (pieces : List (List Char)) : List String := pieces.map fun piece => String.ofList (dropReturn piece)

theorem splitLines_eq (text : String) : splitLines text = linesOf (splitFeeds text.toList) := rfl

theorem exists_ending (piece : List Char) : ∃ ending : Terminator,
    (ending = .feed → (dropReturn piece).getLast? ≠ some '\r') ∧
      dropReturn piece ++ ending.text.toList = piece ++ ['\n'] := by
  have whole := dropReturn_append piece
  by_cases returned : piece.getLast? = some '\r'
  · refine ⟨.returnFeed, nofun, ?_⟩
    rw [lostReturn, if_pos returned] at whole
    calc
      dropReturn piece ++ ['\r', '\n'] = (dropReturn piece ++ ['\r']) ++ ['\n'] := by simp
      _ = piece ++ ['\n'] := by rw [whole]
  · rw [lostReturn, if_neg returned, List.append_nil] at whole
    exact ⟨.feed, fun _ => whole.symm ▸ returned, by rw [whole]; rfl⟩

theorem exists_endings (occupied : pieces ≠ []) : ∃ endings, Terminates (linesOf pieces) endings ∧
    (writeLines (linesOf pieces) endings).toList ++ lostReturn (['\n'].intercalate pieces) =
      ['\n'].intercalate pieces := by
  induction pieces with
  | nil => exact absurd rfl occupied
  | cons piece rest ih =>
    cases rest with
    | nil =>
      refine ⟨[], .last _, ?_⟩
      simpa [linesOf, writeLines] using dropReturn_append piece
    | cons next others =>
      obtain ⟨endings, ends, written⟩ := ih (List.cons_ne_nil next others)
      obtain ⟨ending, returns, whole⟩ := exists_ending piece
      refine ⟨ending :: endings, .more (by simpa using returns) ends, ?_⟩
      have further : ['\n'].intercalate (piece :: next :: others) =
          piece ++ '\n' :: ['\n'].intercalate (next :: others) := by
        simp [List.intercalate_cons_cons]
      have text : (writeLines (linesOf (piece :: next :: others)) (ending :: endings)).toList =
          (piece ++ ['\n']) ++ (writeLines (linesOf (next :: others)) endings).toList := by
        rw [← whole]
        simp [linesOf, writeLines]
      rw [further, lostReturn_append_feed, text, List.append_assoc, List.append_assoc, written]
      rfl

theorem front_behind {mark : Char} {front front' behind behind' : List Char} (plain : mark ∉ front)
    (plain' : mark ∉ front') (same : front ++ mark :: behind = front' ++ mark :: behind') :
    front = front' ∧ behind = behind' := by
  have split := congrArg (List.splitOn mark) same
  rw [List.splitOn_append_cons_self_of_not_mem plain, List.splitOn_append_cons_self_of_not_mem plain'] at split
  have joined := congrArg (List.intercalate [mark]) (List.cons.inj split).2
  exact ⟨(List.cons.inj split).1, by simpa only [List.intercalate_splitOn] using joined⟩

theorem text_append_feed (ending : Terminator) :
    ∃ returns, '\n' ∉ returns ∧ ending.text.toList = returns ++ ['\n'] := by
  cases ending with
  | feed => exact ⟨[], by simp, rfl⟩
  | returnFeed => exact ⟨['\r'], by simp, rfl⟩

theorem lostReturn_eq_nil {endings : List Terminator} (plain : ∀ piece ∈ pieces, '\n' ∉ piece)
    (ends : Terminates (linesOf pieces) endings)
    (written : (writeLines (linesOf pieces) endings).toList = ['\n'].intercalate pieces) :
    lostReturn (['\n'].intercalate pieces) = [] := by
  induction pieces generalizing endings with
  | nil => rfl
  | cons piece rest ih =>
    obtain ⟨own, others⟩ := List.forall_mem_cons.mp plain
    cases rest with
    | nil =>
      cases ends with
      | last =>
        have whole := dropReturn_append piece
        simp only [linesOf, writeLines, List.map_cons, List.map_nil, String.toList_ofList,
          List.intercalate_singleton] at written
        rw [written] at whole
        simpa using whole
      | more _ behind => cases behind
    | cons next rest =>
      cases ends with
      | @more _ ending _ endings _ behind =>
        obtain ⟨returns, free, feed⟩ := text_append_feed ending
        have further : ['\n'].intercalate (piece :: next :: rest) =
            piece ++ '\n' :: ['\n'].intercalate (next :: rest) := by
          simp [List.intercalate_cons_cons]
        have text : (writeLines (linesOf (piece :: next :: rest)) (ending :: endings)).toList =
            (dropReturn piece ++ returns) ++ '\n' :: (writeLines (linesOf (next :: rest)) endings).toList := by
          simp [linesOf, writeLines, feed]
        have front : '\n' ∉ dropReturn piece ++ returns :=
          List.not_mem_append (feed_notMem_dropReturn own) free
        rw [text, further] at written
        rw [further, lostReturn_append_feed]
        exact ih others behind (front_behind front own written).2

/-- No line of a text has a line feed, and there is one line more than there are line feeds. The lines can be ended by
line feeds, with all the returns in front of them, so that they are the text again, but for a return at the very end
of the text, which is in no line. The whole text comes back just when it does not end with a return. -/
theorem splitLines_restores (text : String) :
    (∀ line ∈ splitLines text, '\n' ∉ line.toList) ∧
    (splitLines text).length = text.toList.count '\n' + 1 ∧
    (∃ endings, Terminates (splitLines text) endings ∧
      writeLines (splitLines text) endings ++ (if text.toList.getLast? = some '\r' then "\r" else "") = text) ∧
    ((∃ endings, Terminates (splitLines text) endings ∧ writeLines (splitLines text) endings = text) ↔
      text.toList.getLast? ≠ some '\r') := by
  have plain := feed_notMem_splitFeeds text.toList
  have joined := intercalate_splitFeeds text.toList
  obtain ⟨endings, ends, written⟩ := exists_endings (splitFeeds_ne_nil text.toList)
  rw [joined, lostReturn] at written
  rw [splitLines_eq]
  refine ⟨fun line member => ?_, ?_, ⟨endings, ends, ?_⟩, fun ⟨endings, ends, whole⟩ returned => ?_, fun other => ?_⟩
  · obtain ⟨piece, isPiece, rfl⟩ := List.mem_map.mp member
    rw [String.toList_ofList]
    exact feed_notMem_dropReturn (plain piece isPiece)
  · rw [linesOf, List.length_map, length_splitFeeds]
  · apply String.toList_inj.mp
    rw [String.toList_append, apply_ite String.toList]
    exact written
  · have lost := lostReturn_eq_nil plain ends (by rw [whole, joined])
    rw [joined, lostReturn, if_pos returned] at lost
    cases lost
  · rw [if_neg other, List.append_nil] at written
    exact ⟨endings, ends, String.toList_inj.mp written⟩

/-- A text of one line without a line feed is not restored if it ends with a return. -/
theorem splitLines_loses_return :
    splitLines "a\r" = ["a"] ∧
      ¬∃ endings, Terminates (splitLines "a\r") endings ∧ writeLines (splitLines "a\r") endings = "a\r" := by
  have lines : splitLines "a\r" = ["a"] := by decide +kernel
  refine ⟨lines, fun ⟨endings, ends, written⟩ => ?_⟩
  rw [lines] at ends written
  cases ends with
  | last => exact absurd written (by decide)
  | more _ behind => cases behind

end Foldmark
