/-!
# Blank characters

The characters with the Unicode property White_Space, and texts without blanks at their ends.
-/
namespace CohortDesk.Text

def isBlank (c : Char) : Bool :=
  let point := c.toNat
  (0x9 ≤ point && point ≤ 0xD) || point == 0x20 || point == 0x85 || point == 0xA0 ||
    point == 0x1680 || (0x2000 ≤ point && point ≤ 0x200A) || point == 0x2028 ||
    point == 0x2029 || point == 0x202F || point == 0x205F || point == 0x3000

def trimStart (text : List Char) : List Char := text.dropWhile isBlank

def trimEnd (text : List Char) : List Char := (text.reverse.dropWhile isBlank).reverse

def trim (text : List Char) : List Char := trimEnd (trimStart text)

end CohortDesk.Text
