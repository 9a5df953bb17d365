/-!
# Blank characters

The characters with the Unicode property `White_Space`, and the trimming that is built on them.
CSS and HTML have a smaller notion of white space of their own; this one is used where selector
expressions, class attributes and leading markup are trimmed.
-/

namespace MarkupQuery.Text

/-- A character is blank when Unicode gives it the property `White_Space`. -/
def isBlank (c : Char) : Bool :=
  let n := c.toNat
  (0x9 ≤ n && n ≤ 0xD) || n == 0x20 || n == 0x85 || n == 0xA0 || n == 0x1680 ||
    (0x2000 ≤ n && n ≤ 0x200A) || n == 0x2028 || n == 0x2029 || n == 0x202F || n == 0x205F ||
    n == 0x3000

def trimStart (s : String) : String :=
  String.ofList (s.toList.dropWhile isBlank)

/-- A text of blanks only; the empty text is one. -/
def allBlank (s : String) : Bool :=
  s.toList.all isBlank

end MarkupQuery.Text
