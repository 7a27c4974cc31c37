import CnnForge.Tensor.Basic

namespace CnnForge.Tensor

def sizes (t : Tensor) : List Int := t.shape.map Int.ofNat

def splitChannels? (t : Tensor) (count : Nat) : Option Tensor :=
  if count = 0 || t.dim 0 % count != 0 then none
  else t.reshape? (count :: t.dim 0 / count :: t.shape.drop 1)

/-- Parts that take turns along axis 2: each has every `count`-th column. -/
def splitColumns? (t : Tensor) (count : Nat) : Option Tensor :=
  let w := t.dim 2 / count
  if count = 0 || t.dim 2 % count != 0 then none
  else some <| ofFn [count, t.dim 0, t.dim 1, w] fun k =>
    let row := k / w % (t.dim 0 * t.dim 1)
    t.flat (row * t.dim 2 + k % w * count + k / (w * t.dim 0 * t.dim 1))

def selectChannels (t : Tensor) (first count : Nat) : Tensor :=
  let n := min count (t.dim 1 - first)
  let each := shapeSize (t.shape.drop 2)
  ofFn (t.dim 0 :: n :: t.shape.drop 2) fun k =>
    let operand := k / (n * each)
    t.flat ((operand * t.dim 1 + first) * each + k % (n * each))

def channelsLast (t : Tensor) : Tensor := t.transpose [1, 2, 0]

end CnnForge.Tensor
