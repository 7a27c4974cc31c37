import CnnForge.Yaml.Node
import CnnForge.Yaml.Scalar

namespace CnnForge.Yaml

inductive DocumentFault where
  | failure (f : Failure)
  | duplicateKey (key : Value) (mapping : Mark)
  | unacceptableKey (kindName : String) (key mapping : Mark)

namespace DocumentFault

def place (file : String) (m : Mark) : String :=
  s!"  in \"{file}\", line {m.line + 1}, column {m.column + 1}"

def message? (file : String) : DocumentFault → Option String
  | failure _ => none
  | duplicateKey key m =>
    some s!"Found duplicate key {key.shown} while constructing a mapping{place file m}"
  | unacceptableKey kindName k m =>
    let unhashable := "unhashable type: " ++ Value.quotedText kindName
    some s!"Found unacceptable key {unhashable} {place file k} while constructing a mapping {place file m}"

end DocumentFault

namespace Node

def scalarType? (tag : Option String) (content : String) (untyped : Bool) : Option ScalarType :=
  match tag with
  | some t => ScalarType.ofTag? t
  | none => some (if untyped then .ofContent content else .text)

def scalarValue (tag : Option String) (content : String) (untyped : Bool) : Except Failure Value :=
  match scalarType? tag content untyped with
  | some t => t.value content
  | none => throw .markup

mutual

def toValue : Node → Except Failure Value
  | .scalar tag content untyped _ => scalarValue tag content untyped
  | .sequence _ name items _ => do
    let vs ← itemValues items
    return match name with
      | some n => .named n vs
      | none => .list vs
  | .mapping _ entries _ => do return .table (← entryValues entries)

def itemValues : List Node → Except Failure (List Value)
  | [] => pure []
  | n :: ns => do
    let v ← n.toValue
    return v :: (← itemValues ns)

def entryValues : List (Node × Node) → Except Failure (List (Value × Value))
  | [] => pure []
  | (k, n) :: es => do
    let key ← k.toValue
    let v ← n.toValue
    return (key, v) :: (← entryValues es)

end

def checkType : Node → Except DocumentFault Unit
  | .scalar tag content untyped _ =>
    match scalarValue tag content untyped with
    | .ok _ => pure ()
    | .error e => throw (.failure e)
  | .sequence tag _ _ _ =>
    if tag.all (· == "tag:yaml.org,2002:seq") then pure () else throw (.failure .markup)
  | .mapping tag _ _ =>
    if tag.all (· == "tag:yaml.org,2002:map") then pure () else throw (.failure .markup)

def checkEntries (m : Mark) : List (Node × Node) → List Value → Except DocumentFault Unit
  | [], _ => pure ()
  | (k, n) :: rest, seen => do
    k.checkType
    let key ← match k with
      | .scalar tag content untyped _ =>
        match scalarValue tag content untyped with
        | .ok v => pure v
        | .error e => throw (.failure e)
      | .sequence .. => throw (.unacceptableKey "list" k.mark m)
      | .mapping .. => throw (.unacceptableKey "dict" k.mark m)
    if key.isOneOf seen then throw (.duplicateKey key m)
    n.checkType
    checkEntries m rest (key :: seen)

def checkInside : Node → Except DocumentFault Unit
  | .scalar .. => pure ()
  | .sequence _ _ items _ => items.forM checkType
  | .mapping _ entries m => checkEntries m entries []

def children : Node → List Node
  | .scalar .. => []
  | .sequence _ _ items _ => items
  | .mapping _ entries _ => entries.flatMap fun (k, v) => [k, v]

mutual

def depth : Node → Nat
  | .scalar .. => 1
  | .sequence _ _ items _ => itemDepth items + 1
  | .mapping _ entries _ => entryDepth entries + 1

def itemDepth : List Node → Nat
  | [] => 0
  | n :: ns => max n.depth (itemDepth ns)

def entryDepth : List (Node × Node) → Nat
  | [] => 0
  | (k, n) :: es => max (max k.depth n.depth) (entryDepth es)

end

def checkLevels : Nat → List Node → Except DocumentFault Unit
  | 0, _ => pure ()
  | levels + 1, nodes => do
    nodes.forM checkInside
    checkLevels levels (nodes.flatMap children)

def checkAll (n : Node) : Except DocumentFault Unit := do
  n.checkType
  checkLevels n.depth [n]

end Node

def valueOf (text : Array Char) : Except DocumentFault Value := do
  match Node.ofText text with
  | .error e => throw (.failure e)
  | .ok none => return .null
  | .ok (some n) =>
    n.checkAll
    match n.toValue with
    | .ok v => return v
    | .error e => throw (.failure e)

end CnnForge.Yaml
