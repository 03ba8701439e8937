import SubtreePartition.Text.Decimal

namespace SubtreePartition.Size

def units : List Text :=
  ["bytes", "KB", "MB", "GB", "TB"]

def displayIn (value : Int) : List Text → Text
  | [] => Text.ofInt value
  | [unit] => Text.join [Text.ofInt value, " ", unit]
  | unit :: larger :: rest =>
      if value < 1024 then Text.join [Text.ofInt value, " ", unit]
      else displayIn (value / 1024) (larger :: rest)

def display (size : Int) : Text :=
  displayIn size units

end SubtreePartition.Size
