/-! Addresses of requests, and the paths in them. -/
namespace SalesDesk.Service

/-- An address without the blanks and control characters before it, and without line ends and tabs
inside. -/
def cleanAddress (cs : List Char) : List Char :=
  (cs.dropWhile (·.toNat ≤ 32)).filter fun c => c != '\t' && c != '\n' && c != '\r'

def dropScheme (cs : List Char) : List Char :=
  let scheme := cs.takeWhile (· != ':')
  let isSchemeChar (c : Char) : Bool :=
    c.isAlphanum || c == '+' || c == '-' || c == '.'
  if scheme.length < cs.length && scheme.head?.any Char.isAlpha && scheme.all isSchemeChar then
    cs.drop (scheme.length + 1)
  else cs

def endsHost (c : Char) : Bool := c == '/' || c == '?' || c == '\x23'

def dropHost : List Char → List Char
  | '/' :: '/' :: rest => rest.dropWhile (!endsHost ·)
  | cs => cs

/-- The path of an address: without scheme and host, and up to a question mark or a number sign. -/
def pathOf (address : List Char) : List Char :=
  (dropHost (dropScheme (cleanAddress address))).takeWhile fun c => c != '?' && c != '\x23'

def hexValue? (c : Char) : Option Nat :=
  if c.isDigit then some (c.toNat - '0'.toNat)
  else if 'a' ≤ c && c ≤ 'f' then some (c.toNat - 'a'.toNat + 10)
  else if 'A' ≤ c && c ≤ 'F' then some (c.toNat - 'A'.toNat + 10)
  else none

def decodePercents : List Char → List Char
  | '%' :: a :: b :: rest =>
    match hexValue? a, hexValue? b with
    | some m, some n =>
      if 16 * m + n < 128 then Char.ofNat (16 * m + n) :: decodePercents rest
      else '\ufffd' :: decodePercents rest
    | _, _ => '%' :: decodePercents (a :: b :: rest)
  | c :: rest => c :: decodePercents rest
  | [] => []

/-- The path that is looked up. It has one slash at its start. An address is read twice, and so a
path with two slashes at its start is taken for a host. -/
def lookupPath (address : String) : List Char :=
  '/' :: (decodePercents (pathOf (pathOf address.toList))).dropWhile (· == '/')

def mergeSlashes : List Char → List Char
  | '/' :: '/' :: rest => '/' :: mergeSlashes rest
  | c :: rest => c :: mergeSlashes rest
  | [] => []

end SalesDesk.Service
