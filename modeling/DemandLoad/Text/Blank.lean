import DemandLoad.Text.Ranges

namespace DemandLoad.Text

/-- The 25 characters with the property White_Space. -/
def blanks : Ranges :=
  [(0x09, 0x0D), (0x20, 0x20), (0x85, 0x85), (0xA0, 0xA0), (0x1680, 0x1680), (0x2000, 0x200A),
   (0x2028, 0x2029), (0x202F, 0x202F), (0x205F, 0x205F), (0x3000, 0x3000)]

def isBlank (character : Char) : Bool := blanks.covers character.toNat

def trim (characters : List Char) : List Char :=
  (((characters.dropWhile isBlank).reverse).dropWhile isBlank).reverse

end DemandLoad.Text
