/-! The first or the last few of a list, where a count may also be negative. -/
namespace SalesDesk

variable {β : Type}

/-- The first `limit` ones; a negative limit leaves out as many at the end. -/
def upTo (limit : Int) (xs : List β) : List β :=
  if 0 ≤ limit then xs.take limit.toNat else xs.take (xs.length - (-limit).toNat)

/-- The last `limit` ones. Zero stands for all of them, and a negative limit leaves out as many at
the start. -/
def lastFew (limit : Int) (xs : List β) : List β :=
  if 0 < limit then xs.drop (xs.length - limit.toNat) else xs.drop (-limit).toNat

end SalesDesk
