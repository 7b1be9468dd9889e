import QueryTyping.Text.Hex

namespace QueryTyping.Text

def percentBytes : List Char → List UInt8
  | '%' :: a :: b :: s =>
    match hexValue a, hexValue b with
    | some m, some n => UInt8.ofNat (m * 16 + n) :: percentBytes s
    | _, _ => 0x25 :: percentBytes (a :: b :: s)
  | c :: s => String.utf8EncodeChar c ++ percentBytes s
  | [] => []

end QueryTyping.Text
