namespace CnnForge

inductive Value where
  | null
  | bool (b : Bool)
  | int (n : Int)
  | real (x : Float)
  | text (s : String)
  | list (xs : List Value)
  | named (name : Nat) (xs : List Value)
  | table (entries : List (Value × Value))
  | other (kindName : String)
deriving Repr, Inhabited, BEq

namespace Value

def truth : Value → Bool
  | null => false
  | bool b => b
  | int n => n != 0
  | real x => x != 0
  | text s => s != ""
  | list xs | named _ xs => !xs.isEmpty
  | table es => !es.isEmpty
  | other _ => true

/-- The integer that the value is; truth values count as 0 and 1. -/
def int? : Value → Option Int
  | int n => some n
  | bool b => some (if b then 1 else 0)
  | _ => none

def text? : Value → Option String
  | text s => some s
  | _ => none

def bool? : Value → Option Bool
  | bool b => some b
  | _ => none

def list? : Value → Option (List Value)
  | list xs | named _ xs => some xs
  | _ => none

def real? : Value → Option Float
  | int n => some (Float.ofInt n)
  | bool b => some (if b then 1.0 else 0.0)
  | real x => some x
  | _ => none

mutual

/-- Equality of values: numbers are equal by size, truth values are numbers, and lists are equal
if their elements are. -/
def same : Value → Value → Bool
  | null, null => true
  | text s, text t => s == t
  | other s, other t => s == t
  | list xs, list ys | list xs, named _ ys | named _ xs, list ys | named _ xs, named _ ys =>
    sameLists xs ys
  | table xs, table ys => sameEntries xs ys
  | v, w =>
    match v.int?, w.int? with
    | some m, some n => m == n
    | _, _ =>
      match v.real?, w.real? with
      | some x, some y => x == y
      | _, _ => false

def sameLists : List Value → List Value → Bool
  | [], [] => true
  | x :: xs, y :: ys => same x y && sameLists xs ys
  | _, _ => false

def sameEntries : List (Value × Value) → List (Value × Value) → Bool
  | [], [] => true
  | (k, v) :: xs, (l, w) :: ys => same k l && same v w && sameEntries xs ys
  | _, _ => false

end

def isOneOf (v : Value) (vs : List Value) : Bool := vs.any (v.same ·)

def get? (name : String) : Value → Option Value
  | table es => (es.find? fun (k, _) => k.same (.text name)).map (·.2)
  | _ => none

def ints? (v : Value) : Option (List Int) := do (← v.list?).mapM int?

end Value

end CnnForge
