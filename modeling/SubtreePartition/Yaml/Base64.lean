import SubtreePartition.Text.Basic

namespace SubtreePartition.Yaml.Base64

def sextet? (c : CodePoint) : Option Nat :=
  if Text.isUpper c then some (c - 65)
  else if Text.isLower c then some (c - 71)
  else if Text.isDigit c then some (c + 4)
  else if c = 43 then some 62
  else if c = 47 then some 63
  else none

def octets : List Nat → Bytes
  | [a, b] => [UInt8.ofNat (a * 4 + b / 16)]
  | [a, b, c] => [UInt8.ofNat (a * 4 + b / 16), UInt8.ofNat (b * 16 + c / 4)]
  | [a, b, c, d] =>
      [UInt8.ofNat (a * 4 + b / 16), UInt8.ofNat (b * 16 + c / 4), UInt8.ofNat (c * 64 + d)]
  | _ => []

def decodeFrom (done : Bytes) (group : List Nat) (pads : Nat) : Text → Option Bytes
  | [] => if group.isEmpty then some done.reverse else none
  | c :: rest =>
      if c = 61 then
        if group.length < 2 then decodeFrom done group pads rest
        else if group.length + pads < 3 then decodeFrom done group (pads + 1) rest
        else some (done.reverse ++ octets group)
      else
        match sextet? c with
        | none => decodeFrom done group pads rest
        | some s =>
            if group.length < 3 then decodeFrom done (group ++ [s]) 0 rest
            else decodeFrom ((octets (group ++ [s])).reverse ++ done) [] 0 rest

def decode? (t : Text) : Option Bytes :=
  if t.all (· < 0x80) then decodeFrom [] [] 0 t else none

end SubtreePartition.Yaml.Base64
