/-!
# Blank characters

The characters with the White_Space property, and the text that is left when they are taken off
both ends. Characters that only look blank (zero-width space, byte order mark, the separators
U+001C to U+001F) are not among them.
-/

namespace SearchGateway.Text

/-- The White_Space property. -/
def isBlank (c : Char) : Bool :=
  let n := c.toNat
  (0x9 ≤ n && n ≤ 0xD) || n == 0x20 || n == 0x85 || n == 0xA0 || n == 0x1680 ||
    (0x2000 ≤ n && n ≤ 0x200A) || n == 0x2028 || n == 0x2029 || n == 0x202F || n == 0x205F ||
    n == 0x3000

/-- The characters without the blanks at both ends. -/
def trimmedChars (cs : List Char) : List Char :=
  ((cs.dropWhile isBlank).reverse.dropWhile isBlank).reverse

/-- The text without the blanks at both ends. -/
def trimmed (s : String) : String := .ofList (trimmedChars s.toList)

/-- The text without the characters `c` at its end. -/
def withoutTrailing (c : Char) (s : String) : String :=
  .ofList (s.toList.reverse.dropWhile (· == c)).reverse

/-- The text without the characters `c` at its start. -/
def withoutLeading (c : Char) (s : String) : String :=
  .ofList (s.toList.dropWhile (· == c))

end SearchGateway.Text
