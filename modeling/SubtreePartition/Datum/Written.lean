import SubtreePartition.Datum.Basic
import SubtreePartition.Text.Quoted
import SubtreePartition.Text.Utf8

namespace SubtreePartition

namespace Day

def written (d : Day) : Text :=
  Text.join ["datetime.date(", Text.intercalate ", " ([d.year, d.month, d.day].map Text.ofNat), ")"]

end Day

namespace Moment

def writtenSpan (minutes : Int) : Text :=
  let days := minutes.fdiv (24 * 60)
  let seconds := minutes.fmod (24 * 60) * 60
  let parts : List Text :=
    (if days = 0 then [] else [Text.join ["days=", Text.ofInt days]]) ++
      (if seconds = 0 then [] else [Text.join ["seconds=", Text.ofInt seconds]])
  Text.join ["datetime.timedelta(", Text.intercalate ", " parts, ")"]

def writtenZone (minutes : Int) : Text :=
  if minutes = 0 then "datetime.timezone.utc"
  else Text.join ["datetime.timezone(", writtenSpan minutes, ")"]

def written (m : Moment) : Text :=
  let places : List Nat :=
    [m.day.year, m.day.month, m.day.day, m.hour, m.minute] ++
      (if m.microsecond = 0 then (if m.second = 0 then [] else [m.second])
        else [m.second, m.microsecond])
  let zone : List Text :=
    match m.offset with
    | none => []
    | some minutes => [Text.join ["tzinfo=", writtenZone minutes]]
  Text.join ["datetime.datetime(", Text.intercalate ", " (places.map Text.ofNat ++ zone), ")"]

end Moment

namespace CalendarFault

def message : CalendarFault → Text
  | .year n => Text.join ["year ", Text.ofNat n, " is out of range"]
  | .month => "month must be in 1..12"
  | .day => "day is out of range for month"
  | .hour => "hour must be in 0..23"
  | .minute => "minute must be in 0..59"
  | .second => "second must be in 0..59"
  | .zone minutes =>
      Text.join ["offset must be a timedelta strictly between -timedelta(hours=24) and ",
        "timedelta(hours=24), not ", Moment.writtenSpan minutes, "."]

end CalendarFault

namespace Scalar

def written : Scalar → Text
  | .null => "None"
  | .bool b => if b then "True" else "False"
  | .integer n => Text.ofInt n
  | .real x => x.text
  | .text t => Text.quoted t
  | .octets b => Text.quotedBytes b
  | .day d => d.written
  | .moment m => m.written

def shown (t : Text) : Text :=
  t.flatMap fun c => if Text.isSurrogate c then [0xFFFD, 0xFFFD, 0xFFFD] else [c]

def place : Scalar → Text
  | .text t => shown t
  | .bool b => if b then "1" else "0"
  | s => s.written

end Scalar

namespace Datum

def enclosed (first last : CodePoint) (parts : List Text) : Text :=
  first :: (Text.intercalate ", " parts ++ [last])

def written : Datum → Text
  | .scalar s => s.written
  | .list items => enclosed 91 93 (items.map written)
  | .mapping members =>
      enclosed 123 125 (members.map fun m => Text.join [m.1.written, ": ", written m.2])
decreasing_by
  · next h => simpa using Nat.lt_add_left 1 (List.sizeOf_lt_of_mem h)
  · next h =>
      have := List.sizeOf_lt_of_mem h
      obtain ⟨k, d⟩ := m
      simp at this ⊢
      omega

def excerptRoom : Nat := 50

def excerpt (d : Datum) : Text :=
  let t := d.written
  if (Utf8.encode t).length ≤ excerptRoom then t
  else
    Text.join [Utf8.fitting (excerptRoom / 2) t, "...",
      (Utf8.fitting (excerptRoom / 2 - 1) t.reverse).reverse]

end Datum

end SubtreePartition
