import Foldmark.Config.Basic
import Foldmark.Text.CharClass
import Foldmark.Text.Line
import Foldmark.Text.Paint

/-! What is told about the folding ranges of a file. -/
namespace Foldmark

/-- The ranges of a file, and the language whose rules gave them. -/
structure Report where
  file : String
  language : String
  ranges : List Range
deriving DecidableEq, Repr

namespace Report

def toValue (r : Report) : Value :=
  .table [("file", .str r.file), ("language", .str r.language),
    ("ranges", .list (r.ranges.map Range.toValue))]

def count (r : Report) (kind : Kind) : Nat := r.ranges.countP (·.kind = kind)

def previewWidth : Nat := 60

/-- The first characters of a line without the blanks around it. -/
def preview (document : Document) (line : Nat) : String :=
  match document[line]? with
  | none => ""
  | some text =>
    let text := trimBlanks text.toList
    if previewWidth < text.length then String.ofList (text.take previewWidth ++ ['…'])
    else String.ofList text

def padLeft (width : Nat) (text : String) : String :=
  String.ofList (List.replicate (width - text.length) ' ') ++ text

def shownLine (line : Nat) : String := toString ((line + 1) % Range.wordSize)

def rangeLine (colours : Bool) (document : Document) (r : Range) : String :=
  let kind :=
    match r.kind with
    | .comment => Style.paint .green colours "comment"
    | .region => Style.paint .blue colours "region "
  let lines := padLeft 5 (shownLine r.start) ++ "-" ++ Rule.padRight 5 (shownLine r.stop)
  let first := Style.paint .dimmed colours (preview document r.start)
  s!"{kind} {lines} ({r.lineCount} lines)  {first}\n"

def lastLine (colours : Bool) (document : Document) (r : Range) : String :=
  padLeft 20 "" ++ "└─ " ++ Style.paint .dimmed colours (preview document r.stop) ++ "\n"

/-- The report as a listing; the verbose one shows the last line of every range, too. -/
def listing (r : Report) (colours verbose : Bool) (document : Document) : String :=
  let title := Style.paint .bold colours "Folding ranges for"
  let file := Style.paint .cyan colours r.file
  s!"{title} {file} ({r.language})\n" ++
    if r.ranges.isEmpty then "No folding ranges found.\n"
    else
      String.join (r.ranges.map fun range =>
        rangeLine colours document range ++
          if verbose then lastLine colours document range else "") ++
      s!"\nSummary:\n  Total ranges: {r.ranges.length}\n  Regions: {r.count .region}\n" ++
      s!"  Comments: {r.count .comment}\n"

end Report

end Foldmark
