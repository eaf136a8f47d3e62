/-!
# White space

The characters with the Unicode property `White_Space` (`isBlank`), and the text that is left
when they are taken off both ends (`trim`).  Joiners, the byte order mark and the information
separators are not white space under this property.
-/

namespace EnvMarkers.Text

/-- Whether a character has the Unicode property `White_Space`. -/
def isBlank (c : Char) : Bool :=
  let n := c.toNat
  (0x09 ≤ n && n ≤ 0x0D) || n == 0x20 || n == 0x85 || n == 0xA0 || n == 0x1680 ||
    (0x2000 ≤ n && n ≤ 0x200A) || n == 0x2028 || n == 0x2029 || n == 0x202F || n == 0x205F ||
    n == 0x3000

/-- The characters that are left when the blank ones are taken off both ends. -/
def trimChars (cs : List Char) : List Char :=
  ((cs.dropWhile isBlank).reverse.dropWhile isBlank).reverse

/-- A text without the white space at its two ends. -/
def trim (s : String) : String :=
  String.ofList (trimChars s.toList)

/-- Whether a text is empty or white space throughout. -/
def isBlankText (s : String) : Bool :=
  (trimChars s.toList).isEmpty

end EnvMarkers.Text
