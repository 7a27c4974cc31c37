import CnnForge.Text.Digits

namespace CnnForge.Text

def scientific (n : Int) : String :=
  let ds := digits 10 n.natAbs
  let places := (ds.drop 1).take 18
  let sign := if n < 0 then "-" else ""
  sign ++ String.ofList (ds.take 1) ++ "." ++ (String.ofList places).pushn '0' (18 - places.length)
    ++ "e+" ++ decimal 2 ((ds.length : Int) - 1)

end CnnForge.Text
