/-!
# White space

The characters with the Unicode property White_Space, and trimming of text by it.
-/

namespace ScriptRoster.Text

/-- Whether a character is white space. -/
def isBlank (c : Char) : Bool :=
  let n := c.toNat
  (9 ≤ n && n ≤ 13) || n == 0x20 || n == 0x85 || n == 0xa0 || n == 0x1680
    || (0x2000 ≤ n && n ≤ 0x200a) || n == 0x2028 || n == 0x2029 || n == 0x202f || n == 0x205f
    || n == 0x3000

/-- The text without white space at its end. -/
def trimEnd (s : String) : String :=
  String.ofList (s.toList.reverse.dropWhile isBlank).reverse

/-- The text without white space at both ends. -/
def trim (s : String) : String := trimEnd (String.ofList (s.toList.dropWhile isBlank))

end ScriptRoster.Text
