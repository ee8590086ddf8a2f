/-!
# Blank texts

The characters with the Unicode property White_Space. A text of nothing else is blank.
-/

namespace Possession.Text

def isSpace (c : Char) : Bool :=
  let n := c.toNat
  (9 ≤ n && n ≤ 13) || n == 32 || n == 0x85 || n == 0xa0 || n == 0x1680 ||
    (0x2000 ≤ n && n ≤ 0x200a) || n == 0x2028 || n == 0x2029 || n == 0x202f ||
    n == 0x205f || n == 0x3000

def isBlank (s : String) : Bool := s.toList.all isSpace

end Possession.Text
