import CnnForge.Session

namespace CnnForge

inductive Problem where
  | described (message : String)
  | failure (f : Failure)
deriving Repr, DecidableEq

abbrev Checked := EStateM Problem (List String)

namespace Checked

def warn (message : String) : Checked Unit := modify (· ++ [message])

def stop (message : String) : Checked α := throw (.described message)

@[inline] def refuseIf (b : Bool) (message : String) : Checked Unit :=
  if b then stop message else pure ()

def report (fatal : Bool) (message : String) : Checked Unit :=
  if fatal then stop message else warn message

def fail (f : Failure) : Checked α := throw (.failure f)

@[inline] def require (b : Bool) (message : String := "") : Checked Unit :=
  if b then pure () else fail (.check message)

@[inline] def orFail (f : Failure) : Option α → Checked α
  | some a => pure a
  | none => fail f

@[inline] def lift : Except Failure α → Checked α
  | .ok a => pure a
  | .error f => fail f

end Checked

def Run.perform (x : Checked α) : Run α := do
  match x [] with
  | .ok a warnings =>
    warnings.forM Run.warn
    return a
  | .error (.described message) warnings =>
    warnings.forM Run.warn
    Run.stop message
  | .error (.failure f) warnings =>
    warnings.forM Run.warn
    throw f

/-- Element `i` of an array; negative indices count from the end. -/
def elementAt (xs : Array α) (i : Int) : Except Failure α :=
  match (position? xs.size i).bind (xs[·]?) with
  | some x => .ok x
  | none => .error .index

/-- `xs` with `f` applied to element `i`; negative indices count from the end. -/
def modifyAt (xs : Array α) (i : Int) (f : α → α) : Except Failure (Array α) :=
  match position? xs.size i with
  | some j => .ok (xs.modify j f)
  | none => .error .index

end CnnForge
