import DemandLoad.Text.Blank
import DemandLoad.Text.Unassigned

/-!
Characters that are written as escapes: controls, format characters, blanks other than the plain space,
ignorable characters, and code points without a public character, as of Unicode 17.
-/

namespace DemandLoad.Text

/-- General category Cc. -/
def controls : Ranges :=
  [(0x00, 0x1F), (0x7F, 0x9F)]

/-- General category Cf. -/
def formats : Ranges :=
  [(0xAD, 0xAD), (0x0600, 0x0605), (0x061C, 0x061C), (0x06DD, 0x06DD), (0x070F, 0x070F),
   (0x0890, 0x0891), (0x08E2, 0x08E2), (0x180E, 0x180E), (0x200B, 0x200F), (0x202A, 0x202E),
   (0x2060, 0x2064), (0x2066, 0x206F), (0xFEFF, 0xFEFF), (0xFFF9, 0xFFFB), (0x110BD, 0x110BD),
   (0x110CD, 0x110CD), (0x13430, 0x1343F), (0x1BCA0, 0x1BCA3), (0x1D173, 0x1D17A),
   (0xE0001, 0xE0001), (0xE0020, 0xE007F)]

/-- The property Default_Ignorable_Code_Point. -/
def ignorable : Ranges :=
  [(0xAD, 0xAD), (0x034F, 0x034F), (0x061C, 0x061C), (0x115F, 0x1160), (0x17B4, 0x17B5),
   (0x180B, 0x180F), (0x200B, 0x200F), (0x202A, 0x202E), (0x2060, 0x206F), (0x3164, 0x3164),
   (0xFE00, 0xFE0F), (0xFEFF, 0xFEFF), (0xFFA0, 0xFFA0), (0xFFF0, 0xFFF8), (0x1BCA0, 0x1BCA3),
   (0x1D173, 0x1D17A), (0xE0000, 0xE0FFF)]

/-- General category Co. -/
def privateUse : Ranges :=
  [(0xE000, 0xF8FF), (0xF0000, 0xFFFFD), (0x100000, 0x10FFFD)]

def isHidden (character : Char) : Bool :=
  let code := character.toNat
  controls.covers code || formats.covers code || ignorable.covers code ||
    privateUse.covers code || unassigned.covers code || (isBlank character && character != ' ')

end DemandLoad.Text
