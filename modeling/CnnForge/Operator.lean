namespace CnnForge

inductive Operator where
  | passthrough | conv1d | conv2d | convTranspose2d | linear
  | unknown (code : Int)
deriving Repr, DecidableEq, Inhabited

namespace Operator

def ofCode : Int → Operator
  | 0 => passthrough
  | 1 => conv1d
  | 2 => conv2d
  | 3 => convTranspose2d
  | 4 => linear
  | n => unknown n

def code : Operator → Int
  | passthrough => 0
  | conv1d => 1
  | conv2d => 2
  | convTranspose2d => 3
  | linear => 4
  | unknown n => n

def name : Operator → String
  | passthrough => "passthrough"
  | conv1d => "conv1d"
  | conv2d => "conv2d"
  | convTranspose2d => "convtranspose2d"
  | linear => "linear"
  | unknown _ => "????"

def isConv2d : Operator → Bool
  | conv2d | linear => true
  | _ => false

end Operator

inductive Activation where
  | relu | abs
  | unknown (code : Int)
deriving Repr, DecidableEq, Inhabited

namespace Activation

def ofCode : Int → Activation
  | 1 => relu
  | 2 => abs
  | n => unknown n

def code : Activation → Int
  | relu => 1
  | abs => 2
  | unknown n => n

def name : Option Activation → String
  | none => "no activation"
  | some relu => "ReLU"
  | some abs => "Abs"
  | some (unknown 0) => "no activation"
  | some (unknown _) => "????"

end Activation

inductive Elementwise where
  | none | add | mul | or | sub | xor
  | unknown (code : Int)
deriving Repr, DecidableEq, Inhabited

namespace Elementwise

def ofCode : Int → Elementwise
  | 0 => none
  | -1 => add
  | -2 => mul
  | -3 => or
  | -4 => sub
  | -5 => xor
  | n => unknown n

def code : Elementwise → Int
  | none => 0
  | add => -1
  | mul => -2
  | or => -3
  | sub => -4
  | xor => -5
  | unknown n => n

def name : Elementwise → String
  | none => "none"
  | add => "add"
  | mul => "mul"
  | or => "or"
  | sub => "sub"
  | xor => "xor"
  | unknown _ => "????"

def isOperator : Elementwise → Bool
  | add | mul | or | sub | xor => true
  | none | unknown _ => false

def encoding? : Elementwise → Option Nat
  | add => some 1
  | sub => some 0
  | xor => some 3
  | or => some 2
  | none | mul | unknown _ => Option.none

end Elementwise

end CnnForge
