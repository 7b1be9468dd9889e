namespace QueryTyping.Text

def fraction (ms : Nat) : List Char :=
  let ds := [(ms / 100) % 10, (ms / 10) % 10, ms % 10]
  ((ds.reverse.dropWhile (· == 0)).reverse).map Nat.digitChar

def duration (ms : Nat) : String :=
  if ms = 0 then "0ns"
  else if ms < 1000 then ms.repr ++ "ms"
  else
    let f := fraction (ms % 1000)
    let point := if f.isEmpty then "" else "."
    (ms / 1000).repr ++ point ++ String.ofList f ++ "s"

end QueryTyping.Text
