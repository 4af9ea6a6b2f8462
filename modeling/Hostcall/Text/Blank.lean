/-!
# Blank characters

The characters that are stripped from both ends of a typed line: the white
space characters of Unicode and the four information separators.
-/

namespace Hostcall.Text

/-- A character that is stripped from the ends of a line. -/
def isBlank (character : Char) : Bool :=
  let code := character.toNat
  (0x09 ≤ code && code ≤ 0x0D) || (0x1C ≤ code && code ≤ 0x20) || code == 0x85 ||
    code == 0xA0 || code == 0x1680 || (0x2000 ≤ code && code ≤ 0x200A) ||
    code == 0x2028 || code == 0x2029 || code == 0x202F || code == 0x205F || code == 0x3000

/-- A text without the blank characters at its ends. -/
def stripped (text : String) : String :=
  String.ofList ((text.toList.dropWhile isBlank).reverse.dropWhile isBlank).reverse

end Hostcall.Text
