/-!
# Blank characters and simple text tests

A blank is a Unicode white-space character: the ASCII tab, line feed, vertical tab, form
feed, carriage return and space, the next-line control, and the space, line and paragraph
separators. Trimming removes blanks from both ends. Case folding here is ASCII only, which is
exact for every test this library makes with it: each compares against ASCII words, and no
non-ASCII letter folds to an ASCII one of those words.
-/

namespace Testbed.Text

def isBlank (c : Char) : Bool :=
  let n := c.toNat
  (0x09 ≤ n && n ≤ 0x0D) || n == 0x20 || n == 0x85 || n == 0xA0 || n == 0x1680 ||
    (0x2000 ≤ n && n ≤ 0x200A) || n == 0x2028 || n == 0x2029 || n == 0x202F ||
    n == 0x205F || n == 0x3000

def trimBlanks (text : String) : String :=
  String.ofList ((text.toList.dropWhile isBlank).reverse.dropWhile isBlank).reverse

/-- ASCII letters made lowercase, all else kept. -/
def lowerAscii (text : String) : String := String.ofList (text.toList.map Char.toLower)

def includes (text part : String) : Bool := text.contains part

end Testbed.Text
