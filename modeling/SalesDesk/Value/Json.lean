import SalesDesk.Number.Reading
import SalesDesk.Value.Written

/-! JSON text of values, and values of JSON text. Integers and doubles stay apart. -/
namespace SalesDesk.Json

/-- One character inside a JSON text; characters above ASCII stay as they are. -/
def escapedChar (c : Char) : String :=
  if c == '\x22' then "\\\""
  else if c == '\\' then "\\\\"
  else if c == '\n' then "\\n"
  else if c == '\r' then "\\r"
  else if c == '\t' then "\\t"
  else if c.toNat == 8 then "\\b"
  else if c.toNat == 12 then "\\f"
  else if c.toNat < 32 then "\\u" ++ Text.hexText 4 c.toNat
  else c.toString

def textOf (s : String) : String := "\"" ++ String.join (s.toList.map escapedChar) ++ "\""

mutual

/-- A value on one line; days are written as texts. -/
def line : Value → String
  | .null => "null"
  | .bool b => if b then "true" else "false"
  | .int n => toString n
  | .number x => Number.jsonDouble.text x
  | .text s => textOf s
  | .date d => textOf d.iso
  | .moment m => textOf (m.withMark " ")
  | .list items => "[" ++ String.intercalate ", " (itemLines items) ++ "]"
  | .object fields => "\x7b" ++ String.intercalate ", " (fieldLines fields) ++ "\x7d"

def itemLines : List Value → List String
  | [] => []
  | v :: rest => line v :: itemLines rest

def fieldLines : Entries Value → List String
  | [] => []
  | (name, v) :: rest => (textOf name ++ ": " ++ line v) :: fieldLines rest

end

def lines (fields : Entries Value) : String :=
  "\x7b\n" ++ String.intercalate ",\n" ((fieldLines fields).map ("  " ++ ·)) ++ "\n\x7d"

def write (v : Value) : Except Fault String := v.written (line v)

def writeLines (fields : Entries Value) : Except Fault String :=
  (Value.object fields).written (lines fields)

def isSpace (c : Char) : Bool := c == ' ' || c == '\t' || c == '\n' || c == '\r'

def skipSpace (cs : List Char) : List Char := cs.dropWhile isSpace

def hexValue? (c : Char) : Option Nat :=
  if c.isDigit then some (c.toNat - 48)
  else if 'a' ≤ c && c ≤ 'f' then some (c.toNat - 87)
  else if 'A' ≤ c && c ≤ 'F' then some (c.toNat - 55)
  else none

def readUnit? : List Char → Option (Nat × List Char)
  | a :: b :: c :: d :: rest => do
    let a ← hexValue? a
    let b ← hexValue? b
    let c ← hexValue? c
    let d ← hexValue? d
    return (((a * 16 + b) * 16 + c) * 16 + d, rest)
  | _ => none

/-- The character of one unit, or of two units that form a pair. A unit of a broken pair has no
character of its own and becomes the replacement character. -/
def readEscapedUnit? (cs : List Char) : Option (Char × List Char) := do
  let (high, rest) ← readUnit? cs
  if 0xd800 ≤ high && high < 0xdc00 then
    match rest with
    | '\\' :: 'u' :: more =>
      match readUnit? more with
      | some (low, after) =>
        if 0xdc00 ≤ low && low < 0xe000 then
          return (Char.ofNat (0x10000 + (high - 0xd800) * 0x400 + (low - 0xdc00)), after)
        else return ('\ufffd', rest)
      | none => none
    | _ => return ('\ufffd', rest)
  else if 0xdc00 ≤ high && high < 0xe000 then return ('\ufffd', rest)
  else return (Char.ofNat high, rest)

def simpleEscape? (c : Char) : Option Char :=
  [('\x22', '\x22'), ('\\', '\\'), ('/', '/'), ('b', '\x08'), ('f', '\x0c'), ('n', '\n'),
    ('r', '\r'), ('t', '\t')].lookup c

/-- The text up to the closing quote; `read` holds what was read, last character first. -/
def readText? (fuel : Nat) (read : List Char) (cs : List Char) : Option (String × List Char) :=
  match fuel, cs with
  | fuel + 1, c :: rest =>
    if c == '\x22' then some (String.ofList read.reverse, rest)
    else if c == '\\' then
      match rest with
      | 'u' :: more =>
        match readEscapedUnit? more with
        | some (d, after) => readText? fuel (d :: read) after
        | none => none
      | e :: more =>
        match simpleEscape? e with
        | some d => readText? fuel (d :: read) more
        | none => none
      | [] => none
    else if c.toNat < 32 then none
    else readText? fuel (c :: read) rest
  | _, _ => none

/-- Digits of the whole part: a zero alone, or digits that start with another one. -/
def wholeDigits? (cs : List Char) : Option (List Char × List Char) :=
  match cs with
  | '0' :: rest => some (['0'], rest)
  | _ =>
    let ds := cs.takeWhile (·.isDigit)
    if ds.isEmpty then none else some (ds, cs.dropWhile (·.isDigit))

/-- The part after the point, if there is one with digits. -/
def fractionDigits (cs : List Char) : List Char × List Char :=
  match cs with
  | '.' :: d :: rest =>
    if d.isDigit then (d :: rest.takeWhile (·.isDigit), rest.dropWhile (·.isDigit)) else ([], cs)
  | _ => ([], cs)

/-- The power of ten, if there is one with digits. -/
def exponentPart (cs : List Char) : Option Int × List Char :=
  match cs with
  | mark :: rest =>
    let (negative, ds) := Number.takeSign rest
    let power := ds.takeWhile (·.isDigit)
    if (mark == 'e' || mark == 'E') && !power.isEmpty then
      let n := Number.digitsToNat power
      (some (if negative then -(n : Int) else n), ds.dropWhile (·.isDigit))
    else (none, cs)
  | [] => (none, [])

/-- A number with its sign; without point and power of ten it is an integer. -/
def readNumber? (cs : List Char) : Option (Value × List Char) := do
  let negative := cs.head? == some '-'
  let body := if negative then cs.drop 1 else cs
  let (whole, rest) ← wholeDigits? body
  let (fraction, rest) := fractionDigits rest
  let (power, rest) := exponentPart rest
  if fraction.isEmpty && power.isNone then
    if whole.length > Number.maxIntegerDigits then none
    else
      let n : Int := Number.digitsToNat whole
      return (.int (if negative then -n else n), rest)
  else
    let x := Number.DecimalParts.toFloat ⟨whole, fraction, power.getD 0⟩
    return (.number (if negative then -x else x), rest)

def wordValues : Entries Value := [
  ("null", .null), ("true", .bool true), ("false", .bool false),
  ("NaN", .number Number.notANumber), ("Infinity", .number Number.infinity),
  ("-Infinity", .number (-Number.infinity))]

def readWord? (cs : List Char) : Option (Value × List Char) :=
  wordValues.findSome? fun (word, v) =>
    if word.toList.isPrefixOf cs then some (v, cs.drop word.length) else none

mutual

def readValue? (fuel : Nat) (cs : List Char) : Option (Value × List Char) :=
  match fuel with
  | 0 => none
  | fuel + 1 =>
    match skipSpace cs with
    | '\x22' :: rest => (readText? (rest.length + 1) [] rest).map fun (s, after) => (.text s, after)
    | '[' :: rest =>
      match skipSpace rest with
      | ']' :: after => some (.list [], after)
      | _ => readItems? fuel [] rest
    | '\x7b' :: rest =>
      match skipSpace rest with
      | '\x7d' :: after => some (.object [], after)
      | _ => readFields? fuel [] rest
    | other => (readWord? other).or (readNumber? other)

def readItems? (fuel : Nat) (items : List Value) (cs : List Char) : Option (Value × List Char) :=
  match fuel with
  | 0 => none
  | fuel + 1 =>
    match readValue? fuel cs with
    | none => none
    | some (v, rest) =>
      match skipSpace rest with
      | ',' :: more => readItems? fuel (v :: items) more
      | ']' :: after => some (.list (v :: items).reverse, after)
      | _ => none

def readFields? (fuel : Nat) (fields : Entries Value) (cs : List Char) :
    Option (Value × List Char) :=
  match fuel with
  | 0 => none
  | fuel + 1 =>
    match skipSpace cs with
    | '\x22' :: rest =>
      match readText? (rest.length + 1) [] rest with
      | none => none
      | some (name, rest) =>
        match skipSpace rest with
        | ':' :: rest =>
          match readValue? fuel rest with
          | none => none
          | some (v, rest) =>
            match skipSpace rest with
            | ',' :: more => readFields? fuel (Entries.put fields name v) more
            | '\x7d' :: after => some (.object (Entries.put fields name v), after)
            | _ => none
        | _ => none
    | _ => none

end

def read? (s : String) : Option Value :=
  let cs := s.toList
  match readValue? (2 * cs.length + 2) cs with
  | some (v, rest) => if (skipSpace rest).isEmpty then some v else none
  | none => none

end SalesDesk.Json
