/-!
# Blank characters

`isBlank` is the Unicode property White_Space: the ASCII tab, line feed, vertical tab, form feed,
carriage return and space, the next line and no-break space of Latin-1, and the spaces and
separators of the general punctuation block and beyond. Settings and times are read after
blanks are cut off at their ends.
-/

namespace Rebill.Text

/-- The characters with the Unicode property White_Space. -/
def isBlank (c : Char) : Bool :=
  let n := c.toNat
  (0x09 ≤ n && n ≤ 0x0D) || n == 0x20 || n == 0x85 || n == 0xA0 || n == 0x1680 ||
    (0x2000 ≤ n && n ≤ 0x200A) || n == 0x2028 || n == 0x2029 || n == 0x202F ||
    n == 0x205F || n == 0x3000

def dropBlanks (cs : List Char) : List Char := cs.dropWhile isBlank

def trimBlanks (s : String) : String :=
  String.ofList ((dropBlanks s.toList).reverse.dropWhile isBlank).reverse

/-- Every character of the text is blank; so is the empty text. -/
def isBlankText (s : String) : Bool := s.toList.all isBlank

end Rebill.Text
