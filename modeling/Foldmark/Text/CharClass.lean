import Foldmark.Text.Category
import Foldmark.Text.Property

/-! The classes of characters that patterns and line trimming name: blanks, digits, word characters,
and the ASCII classes. -/
namespace Foldmark

namespace CharSet

def blank : CharSet := ⟨[⟨0x09, 0x0D⟩, ⟨0x20, 0x20⟩, ⟨0x85, 0x85⟩, ⟨0xA0, 0xA0⟩, ⟨0x1680, 0x1680⟩,
  ⟨0x2000, 0x200A⟩, ⟨0x2028, 0x2029⟩, ⟨0x202F, 0x202F⟩, ⟨0x205F, 0x205F⟩, ⟨0x3000, 0x3000⟩]⟩

def digit : CharSet := Category.ofShort "Nd"

def alphabetic : CharSet := (Property.named? "Alphabetic").getD empty

def alphanumeric : CharSet := alphabetic.union (Category.ofShort "N")

/-- The characters that make up words: letters, marks, digits, connectors and joiners. -/
def word : CharSet :=
  (((alphabetic.union (Category.ofShort "M")).union digit).union (Category.ofShort "Pc")).union
    ((Property.named? "Join_Control").getD empty)

def asciiBlank : CharSet := ⟨[⟨0x09, 0x0D⟩, ⟨0x20, 0x20⟩]⟩

def asciiDigit : CharSet := ⟨[⟨48, 57⟩]⟩

def asciiWord : CharSet := ⟨[⟨48, 57⟩, ⟨65, 90⟩, ⟨95, 95⟩, ⟨97, 122⟩]⟩

def ascii? : String → Option CharSet
  | "alnum" => some ⟨[⟨48, 57⟩, ⟨65, 90⟩, ⟨97, 122⟩]⟩
  | "alpha" => some ⟨[⟨65, 90⟩, ⟨97, 122⟩]⟩
  | "ascii" => some ⟨[⟨0, 127⟩]⟩
  | "blank" => some ⟨[⟨9, 9⟩, ⟨32, 32⟩]⟩
  | "cntrl" => some ⟨[⟨0, 31⟩, ⟨127, 127⟩]⟩
  | "digit" => some asciiDigit
  | "graph" => some ⟨[⟨33, 126⟩]⟩
  | "lower" => some ⟨[⟨97, 122⟩]⟩
  | "print" => some ⟨[⟨32, 126⟩]⟩
  | "punct" => some ⟨[⟨33, 47⟩, ⟨58, 64⟩, ⟨91, 96⟩, ⟨123, 126⟩]⟩
  | "space" => some asciiBlank
  | "upper" => some ⟨[⟨65, 90⟩]⟩
  | "word" => some asciiWord
  | "xdigit" => some ⟨[⟨48, 57⟩, ⟨65, 70⟩, ⟨97, 102⟩]⟩
  | _ => none

end CharSet

def isBlank (c : Char) : Bool := CharSet.blank.contains c

def isWordChar (c : Char) : Bool := CharSet.word.contains c

def trimBlanks (chars : List Char) : List Char :=
  ((chars.dropWhile isBlank).reverse.dropWhile isBlank).reverse

def trim (text : String) : String := String.ofList (trimBlanks text.toList)

end Foldmark
