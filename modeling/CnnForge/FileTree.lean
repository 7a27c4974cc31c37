import CnnForge.Failure
import CnnForge.Tensor.Basic
import Std.Data.HashMap

namespace CnnForge

inductive Content where
  | text (s : String)
  | tensors (ts : List Tensor)
deriving Repr, DecidableEq, Inhabited

structure FileTree where
  files : Std.HashMap String Content := {}
  folders : Std.HashMap String Unit := {}
deriving Inhabited

def pathParts (path : String) : List String :=
  (path.splitOn "/").foldl (fun acc p =>
    if p = "" || p = "." then acc
    else if p = ".." then acc.dropLast
    else acc ++ [p]) []

def normalPath (path : String) : String := "/".intercalate (pathParts path)

def joinPath (a b : String) : String :=
  if b.startsWith "/" then b
  else if a = "" then b
  else if a.endsWith "/" then a ++ b
  else a ++ "/" ++ b

def parentPath (path : String) : String := "/".intercalate (pathParts path).dropLast

def baseName (path : String) : String := (pathParts path).getLast?.getD ""

namespace FileTree

def isFolder (t : FileTree) (path : String) : Bool :=
  let p := normalPath path
  p = "" || t.folders.contains p

def isFile (t : FileTree) (path : String) : Bool := t.files.contains (normalPath path)

def addFolder (t : FileTree) (path : String) : FileTree :=
  let parts := pathParts path
  (List.range parts.length).foldl (fun t i =>
    { t with folders := t.folders.insert ("/".intercalate (parts.take (i + 1))) () }) t

def add (t : FileTree) (path : String) (c : Content) : FileTree :=
  let t := t.addFolder (parentPath path)
  { t with files := t.files.insert (normalPath path) c }

def readFailure (t : FileTree) (path : String) : Failure :=
  if path = "" then .fileMissing
  else if t.isFolder path then .isDirectory
  else if (List.range (pathParts path).length).any fun i =>
      t.isFile ("/".intercalate ((pathParts path).take i)) then .notDirectory
  else .fileMissing

def read (t : FileTree) (path : String) : Except Failure Content :=
  match t.files.get? (normalPath path) with
  | some c => if path.endsWith "/" then .error .notDirectory else .ok c
  | none => .error (t.readFailure path)

def checkWritable (t : FileTree) (path : String) : Except Failure Unit :=
  if path = "" then .error .fileMissing
  else if t.isFolder path || path.endsWith "/" then .error .isDirectory
  else if t.isFolder (parentPath path) then .ok ()
  else .error (t.readFailure path)

def create (t : FileTree) (path : String) : Except Failure FileTree := do
  t.checkWritable path
  return { t with files := t.files.insert (normalPath path) (.text "") }

def openAppend (t : FileTree) (path : String) : Except Failure FileTree := do
  t.checkWritable path
  if t.isFile path then return t
  return { t with files := t.files.insert (normalPath path) (.text "") }

def append (t : FileTree) (path s : String) : FileTree :=
  { t with files := t.files.alter (normalPath path) fun
      | some (.text old) => some (.text (old ++ s))
      | some (.tensors ts) => some (.tensors ts)
      | none => some (.text s) }

def filesIn (t : FileTree) (path : String) : List String :=
  let parts := pathParts path
  let names := t.files.fold (fun acc p _ =>
    let ps := pathParts p
    if ps.dropLast = parts then ps.getLast?.getD "" :: acc else acc) []
  names.mergeSort (fun a b => decide (a ≤ b))

/-- Folder `path` and all folders below it, in ascending order; none if it does not exist. -/
def foldersFrom (t : FileTree) (path : String) : List String :=
  if !t.isFolder path then []
  else
    let p := normalPath path
    let below := t.folders.fold (fun acc f _ =>
      if f != p && (p = "" || f.startsWith (p ++ "/")) then f :: acc else acc) []
    (p :: below).mergeSort (fun a b => decide (a ≤ b))

end FileTree

end CnnForge
