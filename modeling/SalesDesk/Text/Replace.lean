/-!
Replacing parts of a text from left to right. A step looks at one place and, if it applies there,
says how many characters it takes and what stands in their stead; reading goes on after them.
-/
namespace SalesDesk.Text

/-- What a step finds at a place: characters taken (at least one is) and their replacement. -/
abbrev Step := Option Char → List Char → Option (Nat × List Char)

/-- The text after a place, whose first `skip` characters are already taken. -/
def replaceFrom (step : Step) (skip : Nat) (before : Option Char) : List Char → List Char
  | [] => []
  | c :: rest =>
    if skip > 0 then replaceFrom step (skip - 1) (some c) rest
    else
      match step before (c :: rest) with
      | some (taken, replacement) => replacement ++ replaceFrom step (taken - 1) (some c) rest
      | none => c :: replaceFrom step 0 (some c) rest

def replace (step : Step) (text : List Char) : List Char := replaceFrom step 0 none text

end SalesDesk.Text
