import SalesDesk.Text.CharClass

/-! Text between blanks: stripping, words, and texts that hold nothing. -/
namespace SalesDesk.Text

def stripChars (cs : List Char) : List Char :=
  ((cs.dropWhile isBlank).reverse.dropWhile isBlank).reverse

def strip (s : String) : String := String.ofList (stripChars s.toList)

def isBlankText (s : String) : Bool := s.toList.all isBlank

def splitOn (separates : Char → Bool) : List Char → List (List Char)
  | [] => [[]]
  | c :: rest =>
    match splitOn separates rest with
    | [] => [[c]]
    | piece :: pieces => if separates c then [] :: piece :: pieces else (c :: piece) :: pieces

def words (s : String) : List String :=
  ((splitOn isBlank s.toList).filter (!·.isEmpty)).map String.ofList

def runs (belongs : Char → Bool) (cs : List Char) : List (List Char) :=
  (splitOn (!belongs ·) cs).filter (!·.isEmpty)

end SalesDesk.Text
