import CnnForge.Failure
import CnnForge.Yaml.Event

namespace CnnForge.Yaml

inductive Node where
  | scalar (tag : Option String) (content : String) (untyped : Bool) (mark : Mark)
  | sequence (tag : Option String) (name : Option Nat) (items : List Node) (mark : Mark)
  | mapping (tag : Option String) (entries : List (Node × Node)) (mark : Mark)
deriving Repr, Inhabited

namespace Node

def mark : Node → Mark
  | .scalar _ _ _ m => m
  | .sequence _ _ _ m => m
  | .mapping _ _ m => m

structure Builder where
  events : List Event
  names : List (String × Node) := []
  opened : List String := []

abbrev Build := StateT Builder (Except Failure)

def nextEvent : Build Event := do
  let s ← get
  match s.events with
  | e :: rest =>
    set { s with events := rest }
    return e
  | [] => throw .markup

def peekEvent : Build EventKind := do
  match (← get).events with
  | e :: _ => return e.kind
  | [] => throw .markup

def openName (anchor : Option String) : Build (Option Nat) := do
  match anchor with
  | none => return none
  | some a =>
    let s ← get
    if s.opened.contains a then throw .markup
    set { s with opened := s.opened ++ [a] }
    return some s.opened.length

def closeName (anchor : Option String) (n : Node) : Build Node := do
  if let some a := anchor then modify fun s => { s with names := (a, n) :: s.names }
  return n

mutual

/-- Builds a node from the next events, at most `fuel` levels and entries deep. -/
def build (fuel : Nat) : Build Node :=
  match fuel with
  | 0 => throw .markup
  | fuel + 1 => do
    let e ← nextEvent
    match e.kind with
    | .alias a =>
      match (← get).names.lookup a with
      | some n => return n
      | none => throw .markup
    | .scalar anchor tag content untyped =>
      let _ ← openName anchor
      closeName anchor (.scalar tag content untyped e.mark)
    | .sequenceStart anchor tag =>
      let name ← openName anchor
      closeName anchor (.sequence tag name (← buildItems fuel) e.mark)
    | .mappingStart anchor tag =>
      let _ ← openName anchor
      closeName anchor (.mapping tag (← buildEntries fuel) e.mark)
    | _ => throw .markup

def buildItems (fuel : Nat) : Build (List Node) :=
  match fuel with
  | 0 => throw .markup
  | fuel + 1 => do
    if (← peekEvent) == .sequenceEnd then
      let _ ← nextEvent
      return []
    let item ← build fuel
    return item :: (← buildItems fuel)

def buildEntries (fuel : Nat) : Build (List (Node × Node)) :=
  match fuel with
  | 0 => throw .markup
  | fuel + 1 => do
    if (← peekEvent) == .mappingEnd then
      let _ ← nextEvent
      return []
    let key ← build fuel
    let value ← build fuel
    return (key, value) :: (← buildEntries fuel)

end

def ofEvents (events : List Event) : Except Failure (Option Node) := do
  let document : Build (Option Node) := do
    let _ ← nextEvent
    if (← peekEvent) == .streamEnd then return none
    let _ ← nextEvent
    let n ← build (events.length + 1)
    let _ ← nextEvent
    if (← peekEvent) != .streamEnd then throw .markup
    return some n
  return (← document { events }).1

def ofText (text : Array Char) : Except Failure (Option Node) := do
  unless text.all isReadable do throw .markup
  match eventsOf text with
  | .ok events => ofEvents events.toList
  | .error _ => throw .markup

end Node

end CnnForge.Yaml
