import Foldmark.Text.Category
import Foldmark.Text.Property
import Foldmark.Text.Script

/-! The classes of characters that tell where a text may be divided into clusters, words and sentences. They
are made of categories, scripts and properties, and of characters that are listed one by one. -/
namespace Foldmark.Segment

open CharSet

def category (shorts : List String) : CharSet := RunTable.select Category.runs shorts.contains

def script (shorts : List String) : CharSet := RunTable.select Script.runs shorts.contains

def property (name : String) : CharSet := (Property.named? name).getD .empty

def single (code : Nat) : CharSet := ofRange code code

def joiner : CharSet := single 0x200D

def regionalIndicator : CharSet := property "RI"

/-- The signs that enclose the characters after them, which are formats by category only. -/
def prepended : CharSet :=
  ofRanges [⟨0x600, 0x605⟩, ⟨0x6DD, 0x6DD⟩, ⟨0x70F, 0x70F⟩, ⟨0x890, 0x891⟩, ⟨0x8E2, 0x8E2⟩,
    ⟨0x110BD, 0x110BD⟩, ⟨0x110CD, 0x110CD⟩]

def extending : CharSet := ((property "Gr_Ext").union (property "EMod")).diff joiner

def attached : CharSet := extending.union (category ["Mc"])

def format : CharSet :=
  (category ["Cf"]).diff (attached.union (prepended.union (ofRange 0x200B 0x200D)))

/-- Digits, the signs in front of numbers, and the decimal separator. -/
def numeric : CharSet :=
  (category ["Nd"]).union ((prepended.diff (single 0x70F)).union (single 0x66B))

def syllables : List Nat := (List.range 399).map fun n => 0xAC00 + 28 * n

def cluster : String → CharSet
  | "CN" =>
    let blank := (category ["Zl", "Zp", "Cc", "Cf"]).union ((category ["Cn"]).inter (property "DI"))
    blank.diff (extending.union (prepended.union (joiner.union (ofString "\n\r"))))
  | "CR" => ofString "\r"
  | "EX" => extending
  | "L" => ofRanges [⟨0x1100, 0x115F⟩, ⟨0xA960, 0xA97C⟩]
  | "LF" => ofString "\n"
  | "LV" => ofRanges (syllables.map fun code => ⟨code, code⟩)
  | "LVT" => ofRanges (syllables.map fun code => ⟨code + 1, code + 27⟩)
  | "PP" =>
    prepended.union (ofRanges [⟨0xD4E, 0xD4E⟩, ⟨0x111C2, 0x111C3⟩, ⟨0x113D1, 0x113D1⟩,
      ⟨0x1193F, 0x1193F⟩, ⟨0x11941, 0x11941⟩, ⟨0x11A3A, 0x11A3A⟩, ⟨0x11A84, 0x11A89⟩,
      ⟨0x11D46, 0x11D46⟩, ⟨0x11F02, 0x11F02⟩])
  | "RI" => regionalIndicator
  | "SM" =>
    let others := ofRanges [⟨0x102B, 0x102C⟩, ⟨0x1038, 0x1038⟩, ⟨0x1062, 0x1064⟩, ⟨0x1067, 0x106D⟩,
      ⟨0x1083, 0x1083⟩, ⟨0x1087, 0x108C⟩, ⟨0x108F, 0x108F⟩, ⟨0x109A, 0x109C⟩, ⟨0x1A61, 0x1A61⟩,
      ⟨0x1A63, 0x1A64⟩, ⟨0xAA7B, 0xAA7B⟩, ⟨0xAA7D, 0xAA7D⟩, ⟨0x11720, 0x11721⟩]
    ((category ["Mc"]).union (ofRanges [⟨0xE33, 0xE33⟩, ⟨0xEB3, 0xEB3⟩])).diff (extending.union others)
  | "T" => ofRanges [⟨0x11A8, 0x11FF⟩, ⟨0xD7CB, 0xD7FB⟩]
  | "V" =>
    ofRanges [⟨0x1160, 0x11A7⟩, ⟨0xD7B0, 0xD7C6⟩, ⟨0x16D63, 0x16D63⟩, ⟨0x16D67, 0x16D6A⟩]
  | "ZWJ" => joiner
  | _ => .empty

def clusterNames : List (List String) := [
  ["CN", "Control"], ["CR"], ["EX", "Extend"], ["L"], ["LF"], ["LV"], ["LVT"], ["PP", "Prepend"],
  ["RI", "Regional_Indicator"], ["SM", "SpacingMark"], ["T"], ["V"], ["ZWJ"]]

def katakana : CharSet :=
  (script ["Kana"]).union (ofRanges [⟨0x3031, 0x3035⟩, ⟨0x309B, 0x309C⟩, ⟨0x30A0, 0x30A0⟩,
    ⟨0x30FC, 0x30FC⟩, ⟨0xFF70, 0xFF70⟩])

def hebrew : CharSet := (script ["Hebr"]).inter (category ["Lo"])

def letterLike : CharSet :=
  ofRanges [⟨0xB8, 0xB8⟩, ⟨0x2C2, 0x2C5⟩, ⟨0x2D2, 0x2D7⟩, ⟨0x2DE, 0x2DF⟩, ⟨0x2E5, 0x2EB⟩,
    ⟨0x2ED, 0x2ED⟩, ⟨0x2EF, 0x2FF⟩, ⟨0x55A, 0x55C⟩, ⟨0x55E, 0x55E⟩, ⟨0x58A, 0x58A⟩, ⟨0x5F3, 0x5F3⟩,
    ⟨0x70F, 0x70F⟩, ⟨0xA708, 0xA716⟩, ⟨0xA720, 0xA721⟩, ⟨0xA789, 0xA78A⟩, ⟨0xAB5B, 0xAB5B⟩]

def unspaced : CharSet :=
  script ["Hira", "Thai", "Laoo", "Mymr", "Khmr", "Tale", "Talu", "Lana", "Tavt", "Ahom"]

def word : String → CharSet
  | "CR" => ofString "\r"
  | "DQ" => ofString "\""
  | "EX" => (category ["Pc"]).union (single 0x202F)
  | "Extend" => attached
  | "FO" => format
  | "HL" => hebrew
  | "KA" => katakana
  | "LE" =>
    let others := (property "Ideo").union (katakana.union (hebrew.union (attached.union unspaced)))
    ((property "Alpha").union letterLike).diff others
  | "LF" => ofString "\n"
  | "MB" => ofRanges [⟨0x2E, 0x2E⟩, ⟨0x2018, 0x2019⟩, ⟨0x2024, 0x2024⟩, ⟨0xFE52, 0xFE52⟩,
    ⟨0xFF07, 0xFF07⟩, ⟨0xFF0E, 0xFF0E⟩]
  | "ML" => ofRanges [⟨0x3A, 0x3A⟩, ⟨0xB7, 0xB7⟩, ⟨0x387, 0x387⟩, ⟨0x55F, 0x55F⟩, ⟨0x5F4, 0x5F4⟩,
    ⟨0x2027, 0x2027⟩, ⟨0xFE13, 0xFE13⟩, ⟨0xFE55, 0xFE55⟩, ⟨0xFF1A, 0xFF1A⟩]
  | "MN" => ofRanges [⟨0x2C, 0x2C⟩, ⟨0x3B, 0x3B⟩, ⟨0x37E, 0x37E⟩, ⟨0x589, 0x589⟩, ⟨0x60C, 0x60D⟩,
    ⟨0x66C, 0x66C⟩, ⟨0x7F8, 0x7F8⟩, ⟨0x2044, 0x2044⟩, ⟨0xFE10, 0xFE10⟩, ⟨0xFE14, 0xFE14⟩,
    ⟨0xFE50, 0xFE50⟩, ⟨0xFE54, 0xFE54⟩, ⟨0xFF0C, 0xFF0C⟩, ⟨0xFF1B, 0xFF1B⟩]
  | "NL" => ofRanges [⟨0xB, 0xC⟩, ⟨0x85, 0x85⟩, ⟨0x2028, 0x2029⟩]
  | "NU" => numeric
  | "RI" => regionalIndicator
  | "SQ" => single 0x27
  | "WSegSpace" =>
    (category ["Zs"]).diff (ofRanges [⟨0xA0, 0xA0⟩, ⟨0x2007, 0x2007⟩, ⟨0x202F, 0x202F⟩])
  | "ZWJ" => joiner
  | _ => .empty

def wordNames : List (List String) := [
  ["CR"], ["DQ", "Double_Quote"], ["EX", "ExtendNumLet"], ["Extend"], ["FO", "Format"],
  ["HL", "Hebrew_Letter"], ["KA", "Katakana"], ["LE", "ALetter"], ["LF"], ["MB", "MidNumLet"],
  ["ML", "MidLetter"], ["MN", "MidNum"], ["NL", "Newline"], ["NU", "Numeric"],
  ["RI", "Regional_Indicator"], ["SQ", "Single_Quote"], ["WSegSpace"], ["ZWJ"]]

def georgian : CharSet :=
  ofRanges [⟨0x10D0, 0x10FA⟩, ⟨0x10FD, 0x10FF⟩, ⟨0x1C90, 0x1CBA⟩, ⟨0x1CBD, 0x1CBF⟩]

def lower : CharSet := (property "Lower").diff (attached.union georgian)

def upper : CharSet := ((category ["Lt"]).union (property "Upper")).diff georgian

def pointLike : CharSet :=
  ofRanges [⟨0x2E, 0x2E⟩, ⟨0x2024, 0x2024⟩, ⟨0xFE52, 0xFE52⟩, ⟨0xFF0E, 0xFF0E⟩]

def sentence : String → CharSet
  | "AT" => pointLike
  | "CL" =>
    (category ["Ps", "Pe", "Pi", "Pf"]).union (ofRanges [⟨0x22, 0x22⟩, ⟨0x27, 0x27⟩, ⟨0x275B, 0x2760⟩,
      ⟨0x2E00, 0x2E01⟩, ⟨0x2E06, 0x2E08⟩, ⟨0x2E0B, 0x2E0B⟩, ⟨0x1F676, 0x1F678⟩])
  | "CR" => ofString "\r"
  | "EX" => (property "Gr_Ext").union ((category ["Mc"]).union joiner)
  | "FO" => format.union (single 0x200B)
  | "LE" =>
    let others := lower.union (upper.union attached)
    ((property "Alpha").union (ofRanges [⟨0x5F3, 0x5F3⟩, ⟨0x70F, 0x70F⟩])).diff others
  | "LF" => ofString "\n"
  | "LO" => lower
  | "NU" => numeric.union (single 0x66C)
  | "SC" => ofRanges [⟨0x2C, 0x2D⟩, ⟨0x3A, 0x3B⟩, ⟨0x37E, 0x37E⟩, ⟨0x55D, 0x55D⟩, ⟨0x60C, 0x60D⟩,
    ⟨0x7F8, 0x7F8⟩, ⟨0x1802, 0x1802⟩, ⟨0x1808, 0x1808⟩, ⟨0x2013, 0x2014⟩, ⟨0x3001, 0x3001⟩,
    ⟨0xFE10, 0xFE11⟩, ⟨0xFE13, 0xFE14⟩, ⟨0xFE31, 0xFE32⟩, ⟨0xFE50, 0xFE51⟩, ⟨0xFE54, 0xFE55⟩,
    ⟨0xFE58, 0xFE58⟩, ⟨0xFE63, 0xFE63⟩, ⟨0xFF0C, 0xFF0D⟩, ⟨0xFF1A, 0xFF1B⟩, ⟨0xFF64, 0xFF64⟩]
  | "SE" => ofRanges [⟨0x85, 0x85⟩, ⟨0x2028, 0x2029⟩]
  | "SP" => (property "WSpace").diff (ofRanges [⟨0xA, 0xA⟩, ⟨0xD, 0xD⟩, ⟨0x85, 0x85⟩, ⟨0x2028, 0x2029⟩])
  | "ST" => (property "STerm").diff pointLike
  | "UP" => upper
  | _ => .empty

def sentenceNames : List (List String) := [
  ["AT", "ATerm"], ["CL", "Close"], ["CR"], ["EX", "Extend"], ["FO", "Format"], ["LE", "OLetter"],
  ["LF"], ["LO", "Lower"], ["NU", "Numeric"], ["SC", "SContinue"], ["SE", "Sep"], ["SP", "Sp"],
  ["ST", "STerm"], ["UP", "Upper"]]

def cluster? (name : String) : Option CharSet := (RunTable.short? clusterNames name).map cluster

def word? (name : String) : Option CharSet := (RunTable.short? wordNames name).map word

def sentence? (name : String) : Option CharSet := (RunTable.short? sentenceNames name).map sentence

end Foldmark.Segment
