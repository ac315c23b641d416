import SalesDesk.Number.Reading

/-!
The tokens of a text that writes a day: numbers, words, single marks and blanks. A point may stand
inside a number or hold several short parts together; in the second case the parts come apart.
-/
namespace SalesDesk.WrittenDay

/-- The digits of a number before and after its point. -/
structure Numeral where
  whole : List Char
  fraction : List Char := []

namespace Numeral

def width (n : Numeral) : Nat :=
  if n.fraction.isEmpty then n.whole.length else n.whole.length + 1 + n.fraction.length

def isInteger (n : Numeral) : Bool := n.fraction.isEmpty

def floor (n : Numeral) : Nat := Number.digitsToNat n.whole

def hasRemainder (n : Numeral) : Bool := n.fraction.any (· != '0')

def exceeds (n : Numeral) (bound : Nat) : Bool :=
  bound < n.floor || (n.floor == bound && n.hasRemainder)

def sixtieths (n : Numeral) : Nat :=
  60 * Number.digitsToNat n.fraction / Nat.pow 10 n.fraction.length

def decimals (places : Nat) (n : Numeral) : Nat :=
  Number.digitsToNat ((n.fraction ++ List.replicate places '0').take places)

end Numeral

inductive Token where
  | number (n : Numeral)
  | word (w : String)
  | mark (c : Char)
  | space
  /-- Points among letters or a comma among points: no number and no word. -/
  | tangle

inductive CharKind
  | digit | letter | space | mark
deriving DecidableEq

def kindOf (c : Char) : CharKind :=
  if c.isDigit then .digit
  else if Text.isBlank c then .space
  else if Text.isWord c && c != '_' then .letter
  else .mark

def isPoint (c : Char) : Bool := c == '.' || c == ','

structure Run where
  chars : List Char
  /-- What the run goes on with: letters or digits. -/
  kind : CharKind
  dotted : Bool := false
  /-- Was a letter followed by another character? -/
  lettered : Bool := false

namespace Run

def followed (r : Run) : Run := { r with lettered := r.lettered || r.kind == .letter }

/-- The run with one more character, if it takes it. A point goes into every run, a comma after at
least two digits; behind a point letters and digits may change places. -/
def extend? (r : Run) (c : Char) : Option Run :=
  let kind := kindOf c
  let r := r.followed
  if c == '.' || (c == ',' && r.kind == .digit && !r.dotted && 2 ≤ r.chars.length) then
    some { r with chars := c :: r.chars, dotted := true }
  else if kind == r.kind then some { r with chars := c :: r.chars }
  else if (kind == .letter || kind == .digit) && r.dotted && r.chars.head? == some '.' then
    some { r with chars := c :: r.chars, kind }
  else none

end Run

def parts : List Char → List Token
  | [] => []
  | c :: rest =>
    match kindOf c, parts rest with
    | .digit, .number n :: later => .number { n with whole := c :: n.whole } :: later
    | .digit, later => .number ⟨[c], []⟩ :: later
    | .letter, .word w :: later => .word (String.ofList (c :: w.toList)) :: later
    | .letter, later => .word c.toString :: later
    | _, later => .mark c :: later

/-- The tokens of a finished run. A run with letters and points comes apart, and so do digits with
several points or with a point at their end. -/
def Run.tokens (r : Run) : List Token :=
  let cs := r.chars.reverse
  if !r.dotted then parts cs
  else if r.lettered || 1 < cs.count '.' || r.chars.head?.any isPoint then parts cs
  else if r.kind == .letter || 1 < cs.countP isPoint then [.tangle]
  else [.number ⟨cs.takeWhile (!isPoint ·), (cs.dropWhile (!isPoint ·)).drop 1⟩]

def start (c : Char) : List Token × Option Run :=
  match kindOf c with
  | .space => ([.space], none)
  | .mark => ([.mark c], none)
  | kind => ([], some { chars := [c], kind })

def scan : Option Run → List Char → List Token
  | none, [] => []
  | some r, [] => r.tokens
  | none, c :: rest =>
    let (ts, r) := start c
    ts ++ scan r rest
  | some r, c :: rest =>
    match r.extend? c with
    | some longer => scan (some longer) rest
    | none =>
      let (ts, next) := start c
      r.followed.tokens ++ (ts ++ scan next rest)

/-- Cut a text into tokens. Digits of every script count, and the null character is passed over. -/
def tokens (s : String) : List Token :=
  scan none ((s.toList.filter (· != '\x00')).map Number.plainDigit)

end SalesDesk.WrittenDay
