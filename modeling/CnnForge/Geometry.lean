namespace CnnForge

structure Pair where
  row : Int
  column : Int
deriving Repr, DecidableEq, Inhabited

namespace Pair

def both (n : Int) : Pair := ⟨n, n⟩

def anyAbove (p : Pair) (n : Int) : Bool := p.row > n || p.column > n

def toList (p : Pair) : List Int := [p.row, p.column]

def product (p : Pair) : Int := p.row * p.column

end Pair

end CnnForge
