import SubtreePartition.Text.Decimal
import SubtreePartition.Text.Printable

namespace SubtreePartition.Text

def escaped (quote c : CodePoint) : Text :=
  if c = quote || c = 92 then [92, c]
  else if c = 10 then [92, 110]
  else if c = 13 then [92, 114]
  else if c = 9 then [92, 116]
  else if isPrintable c then [c]
  else if c < 0x100 then 92 :: 120 :: hex 2 c
  else if c < 0x10000 then 92 :: 117 :: hex 4 c
  else 92 :: 85 :: hex 8 c

def quoteFor (t : Text) : CodePoint :=
  if t.contains 39 && !t.contains 34 then 34 else 39

def quoted (t : Text) : Text :=
  let quote := quoteFor t
  quote :: (t.flatMap (escaped quote) ++ [quote])

def quotedList (ts : List Text) : Text :=
  91 :: (intercalate [44, 32] (ts.map quoted) ++ [93])

def quotedBytes (bytes : Bytes) : Text :=
  let t : Text := bytes.map UInt8.toNat
  let quote := quoteFor t
  98 :: quote ::
    (t.flatMap (fun c => if c < 0x80 then escaped quote c else 92 :: 120 :: hex 2 c) ++ [quote])

end SubtreePartition.Text
