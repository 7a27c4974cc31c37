namespace CnnForge

inductive Failure where
  | exit (status : Nat)
  | check (message : String)
  | unsupported
  | runtime (message : String)
  | argument (message : String)
  | refused (message : String)
  | value
  | kind
  | index
  | key
  | property
  | divisionByZero
  | overflow
  | fileMissing
  | isDirectory
  | notDirectory
  | fileExists
  | markup
  | encoding
  | endless
deriving Repr, DecidableEq

end CnnForge
