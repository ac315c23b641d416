import SalesDesk.Calendar.Date

/-! What a text says about a day and a time, as far as it says it. -/
namespace SalesDesk

structure Stamp where
  year : Option Nat := none
  month : Option Nat := none
  day : Option Nat := none
  hour : Option Nat := none
  minute : Option Nat := none
  second : Option Nat := none
  /-- The fraction of the second in billionths. -/
  nano : Nat := 0
  /-- How many seconds the zone is ahead of universal time. -/
  offset : Option Int := none

namespace Stamp

def ofDate (d : Date) : Stamp := { year := some d.year, month := some d.month, day := some d.day }

def isFullDay (s : Stamp) : Bool := s.year.isSome && s.month.isSome && s.day.isSome

def date? (s : Stamp) : Option Date :=
  Date.ofParts? (s.year.getD 1) (s.month.getD 1) (s.day.getD 1)

def hasClockTime (s : Stamp) : Bool :=
  s.hour.all (· < 24) && s.minute.all (· < 60) && s.second.all (· < 60)

def hasZone (s : Stamp) : Bool := s.offset.all fun n => n.natAbs < 86400

def nanoseconds (s : Stamp) (d : Date) : Int :=
  let seconds : Int := 3600 * s.hour.getD 0 + 60 * s.minute.getD 0 + s.second.getD 0
  (86400 * ((d.toOrdinal : Int) - 719163) + seconds - s.offset.getD 0) * 1000000000 + s.nano

end Stamp

end SalesDesk
