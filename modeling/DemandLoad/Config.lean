import DemandLoad.Text.Blank

namespace DemandLoad

structure Config where
  traced : Bool := false
  deriving DecidableEq, Repr

namespace Config

def off : List String := ["", "0", "false", "off"]

/-- Every text but these enables the flag; case is folded in ASCII only. -/
def flagEnabled (text : String) : Bool :=
  let spelled := String.ofList ((Text.trim text.toList).map Char.toLower)
  !off.contains spelled

def ofFlag (bytes : Option ByteArray) : Config :=
  ⟨(bytes.bind String.fromUTF8?).any flagEnabled⟩

end Config

end DemandLoad
