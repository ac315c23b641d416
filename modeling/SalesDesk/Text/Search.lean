import SalesDesk.Text.CharClass

/-!
Places in a text. A place is the character before it, if any, and the text from it on; keywords,
phrases and whole words are tests on places.
-/
namespace SalesDesk.Text

def wordAt (c : Option Char) : Bool := c.any isWord

def edge (before after : Option Char) : Bool := wordAt before != wordAt after

def anyPlace (test : Option Char → List Char → Bool) (before : Option Char) : List Char → Bool
  | [] => test before []
  | c :: rest => test before (c :: rest) || anyPlace test (some c) rest

/-- The first place of the text that passes the test, counted from `start`. -/
def findPlace? (test : Option Char → List Char → Bool) (start : Nat) (before : Option Char) :
    List Char → Option Nat
  | [] => if test before [] then some start else none
  | c :: rest =>
    if test before (c :: rest) then some start else findPlace? test (start + 1) (some c) rest

/-- The keyword stands here with a word edge before it; the word may go on after it. -/
def keywordHere (keyword : List Char) (before : Option Char) (text : List Char) : Bool :=
  edge before text.head? && keyword.isPrefixOf text

def phraseHere (phrase : List Char) (before : Option Char) (text : List Char) : Bool :=
  !wordAt before && phrase.isPrefixOf text && !wordAt (text.drop phrase.length).head?

/-- `month` is mentioned in `monthly`, but not inside `bimonth`. -/
def mentions (text keyword : String) : Bool :=
  anyPlace (keywordHere keyword.toList) none text.toList

def mentionsAny (text : String) (keywords : List String) : Bool :=
  keywords.any (mentions text)

/-- Does the phrase occur as a whole? An empty phrase never does. -/
def hasPhrase (text phrase : String) : Bool :=
  !phrase.isEmpty && anyPlace (phraseHere phrase.toList) none text.toList

/-- Where the fragment first occurs, anywhere in the text. -/
def indexOf? (text fragment : List Char) : Option Nat :=
  findPlace? (fun _ rest => fragment.isPrefixOf rest) 0 none text

def hasFragment (text fragment : String) : Bool :=
  (indexOf? text.toList fragment.toList).isSome

end SalesDesk.Text
