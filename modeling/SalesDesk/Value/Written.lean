import SalesDesk.Fault

/-! What is made of the texts of values. An integer of too many digits has no text. -/
namespace SalesDesk

/-- What is made of the text of a value, if all its integers can be written. -/
def Value.written {β : Type} (v : Value) (made : β) : Except Fault β :=
  if v.holdsLongInteger then .error (.tooManyDigits none) else .ok made

namespace Number

def isWritable (n : Int) : Bool := !(Value.int n).holdsLongInteger

def written {β : Type} (n : Int) (made : β) : Except Fault β := (Value.int n).written made

end Number

end SalesDesk
