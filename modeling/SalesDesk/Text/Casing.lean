import SalesDesk.Text.CaseTable
import SalesDesk.Text.CasedTable
import SalesDesk.Text.CharClass

/-! Small letters and word capitals for every script that has them. -/
namespace SalesDesk.Text

/-- The change of a single character that the table asks for, if any. -/
def shift? (shifts : List Shift) (c : Char) : Option Char :=
  (shifts.find? fun s =>
    s.first ≤ c.toNat && c.toNat ≤ s.last && (c.toNat - s.first) % s.stride == 0).map
      fun s => Char.ofNat (Int.toNat (c.toNat + s.offset))

def changed (shifts : List Shift) (specials : List (Nat × List Nat)) (c : Char) : List Char :=
  match specials.lookup c.toNat with
  | some codes => codes.map Char.ofNat
  | none => [(shift? shifts c).getD c]

def lowerChar (c : Char) : List Char :=
  if c.toNat < 128 then [c.toLower] else changed lowerShifts lowerSpecials c

def titleChar (c : Char) : List Char :=
  if c.toNat < 128 then [c.toUpper] else changed titleShifts titleSpecials c

def isCased (c : Char) : Bool :=
  if c.toNat < 128 then c.isAlpha else inRanges casedRanges c.toNat

/-- Marks inside a word that do not end it for the final sigma. -/
def isCaseIgnorable (c : Char) : Bool :=
  if c.toNat < 128 then ['\x27', '.', ':', '^', '\x60'].contains c
  else inRanges caseIgnorableRanges c.toNat

/-- Is the nearest character that counts for case a letter with case? -/
def nextIsCased (cs : List Char) : Bool :=
  (cs.dropWhile isCaseIgnorable).head?.any isCased

/-- A capital sigma takes its final form at the end of a word of at least two letters. -/
def lowerSigma (before after : List Char) : Char :=
  if nextIsCased before && !nextIsCased after then 'ς' else 'σ'

/-- Lower case of the remaining text, `before` being the text already read, nearest first. -/
def lowerFrom (before : List Char) : List Char → List Char
  | [] => []
  | c :: rest =>
    (if c == 'Σ' then [lowerSigma before rest] else lowerChar c) ++ lowerFrom (c :: before) rest

def lower (s : String) : String := String.ofList (lowerFrom [] s.toList)

def titleFrom (before : List Char) : List Char → List Char
  | [] => []
  | c :: rest =>
    (if before.head?.any isCased then
      if c == 'Σ' then [lowerSigma before rest] else lowerChar c
    else titleChar c) ++ titleFrom (c :: before) rest

def titleCase (s : String) : String := String.ofList (titleFrom [] s.toList)

/-- The capital of a character. A few characters have another form at the start of a word. -/
def capital (c : Char) : List Char :=
  if (shift? capitalShifts c).isSome || (capitalSpecials.lookup c.toNat).isSome then
    changed capitalShifts capitalSpecials c
  else titleChar c

def capitalised (s : String) : String :=
  match s.toList with
  | [] => ""
  | c :: rest => String.ofList (capital c ++ rest)

end SalesDesk.Text
