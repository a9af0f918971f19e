/-! Blank text: nothing but white space. -/

namespace Formula.Text

/-- The characters with the property White_Space. -/
def isSpace (ch : Char) : Bool :=
  let code := ch.toNat
  (9 ≤ code && code ≤ 13) || code == 0x20 || code == 0x85 || code == 0xa0 || code == 0x1680 ||
    (0x2000 ≤ code && code ≤ 0x200a) || code == 0x2028 || code == 0x2029 || code == 0x202f ||
    code == 0x205f || code == 0x3000

def isBlank (text : String) : Bool := text.toList.all isSpace

end Formula.Text
