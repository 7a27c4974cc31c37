import CnnForge.Session

namespace CnnForge.Asset

def under (base source name : String) : String := joinPath (joinPath base source) name

def unifyLines (text : String) : String :=
  (text.replace "\r\n" "\n").replace "\r" "\n"

def copyFile (source target : String) : Run Unit := do
  let files := (← get).files
  let content ← Run.lift (files.read source)
  let path := if files.isFolder target then joinPath target (baseName source) else target
  Run.lift (files.checkWritable path)
  modify fun s => { s with files := s.files.add path content }

def listed (folder : String) : Run (List String) := do
  let files := (← get).files
  return (files.foldersFrom folder).flatMap files.filesIn

def copyAll (base source target test : String) : Run Unit := do
  for name in ← listed (joinPath base source) do
    copyFile (under base source name) (joinPath target test)

structure Filling where
  project : String
  program : String
  board : String
  insert : String := ""
deriving Repr, Inhabited

def projectMark : String := "##__PROJ_NAME__##"

def Filling.apply (f : Filling) (text : String) : String :=
  (((text.replace projectMark f.project).replace "##__ELF_FILE__##" f.program).replace
    "##__BOARD__##" f.board).replace "##__FILE_INSERT__##" f.insert

def programFile (d : Device) (riscv : Bool) : String :=
  d.partNumber.toLower ++ (if riscv then "-combined.elf" else ".elf")

def fillFile (f : Filling) (source target : String) : Run Unit := do
  let text ← match ← Run.lift ((← get).files.read source) with
    | .text s => pure s
    | .tensors _ => throw .encoding
  Run.createFile target
  Run.emit (.file target) (f.apply (unifyLines text))

def fromTemplates (base source target test board : String) (insert : String := "") : Run Unit := do
  let d ← Run.device
  let f : Filling :=
    { project := test, program := programFile d (← Run.options).riscv, board, insert }
  for name in ← listed (joinPath base source) do
    if name.startsWith "template" then
      let rest := String.ofList (name.toList.drop 8)
      fillFile f (under base source name)
        (joinPath (joinPath target test) (rest.replace projectMark test))
    else copyFile (under base source name) (joinPath target test)

end CnnForge.Asset
