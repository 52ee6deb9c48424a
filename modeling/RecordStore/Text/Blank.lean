/-!
# Blank characters

The characters that count as white space when a text is tested for having content. The list is the
white-space property of the character standard, which has 25 members; format characters of no width
are not among them.
-/

namespace RecordStore.Text

def isBlank (c : Char) : Bool :=
  let code := c.toNat
  code == 0x20 || (0x09 ≤ code && code ≤ 0x0d) || code == 0x85 || code == 0xa0 || code == 0x1680 ||
    (0x2000 ≤ code && code ≤ 0x200a) || code == 0x2028 || code == 0x2029 || code == 0x202f ||
    code == 0x205f || code == 0x3000

def allBlank (text : String) : Bool := text.toList.all isBlank

end RecordStore.Text
