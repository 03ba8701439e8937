import SubtreePartition.Text.Decimal

namespace SubtreePartition

structure Day where
  year : Nat
  month : Nat
  day : Nat
  deriving DecidableEq, Repr

inductive CalendarFault where
  | year (n : Nat)
  | month
  | day
  | hour
  | minute
  | second
  | zone (minutes : Int)
  deriving DecidableEq, Repr

namespace Day

def isLeap (year : Nat) : Bool :=
  year % 4 = 0 && (year % 100 ≠ 0 || year % 400 = 0)

def monthLength (year month : Nat) : Nat :=
  if month = 2 then (if isLeap year then 29 else 28)
  else if [4, 6, 9, 11].contains month then 30
  else 31

def fault? (d : Day) : Option CalendarFault :=
  if d.year < 1 || 9999 < d.year then some (.year d.year)
  else if d.month < 1 || 12 < d.month then some .month
  else if d.day < 1 || monthLength d.year d.month < d.day then some .day
  else none

def ordinal (d : Day) : Nat :=
  let y := d.year - 1
  y * 365 + y / 4 - y / 100 + y / 400 +
    (List.range (d.month - 1)).foldl (fun days m => days + monthLength d.year (m + 1)) 0 + d.day

end Day

structure Moment where
  day : Day
  hour : Nat
  minute : Nat
  second : Nat
  microsecond : Nat
  offset : Option Int
  deriving DecidableEq, Repr

namespace Moment

def zoneFault? (m : Moment) : Option CalendarFault :=
  (m.offset.filter fun offset => 24 * 60 ≤ offset.natAbs).map .zone

def fault? (m : Moment) : Option CalendarFault :=
  m.zoneFault?.or (m.day.fault?.or
    (if 24 ≤ m.hour then some .hour
      else if 60 ≤ m.minute then some .minute
      else if 60 ≤ m.second then some .second
      else none))

def instant (m : Moment) : Int :=
  let minutes : Int := (m.day.ordinal * 24 + m.hour) * 60 + m.minute - m.offset.getD 0
  (minutes * 60 + m.second) * 1000000 + m.microsecond

def same (a b : Moment) : Bool :=
  a.offset.isSome = b.offset.isSome && a.instant = b.instant

end Moment

end SubtreePartition
