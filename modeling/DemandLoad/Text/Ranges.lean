/-!
Sets of characters as closed ranges of code points. Ranges ascend and do not meet, so a look-up may stop at the
first one that begins beyond the character.
-/

namespace DemandLoad.Text

abbrev Ranges := List (Nat × Nat)

namespace Ranges

def covers (code : Nat) : Ranges → Bool
  | [] => false
  | (first, last) :: rest => first ≤ code && (code ≤ last || covers code rest)

end Ranges

end DemandLoad.Text
