import CnnForge.Bus.Access

namespace CnnForge.Bus

def preloadText (render : α → String) (entries : Array (Int × α)) : String :=
  let lines := entries.toList.map fun (w, x) => (w, render x)
  let sorted := lines.mergeSort fun a b => if a.1 ≠ b.1 then a.1 < b.1 else decide (a.2 ≤ b.2)
  String.join (sorted.map fun (w, s) => s!"@{Text.hex 4 w} {s}\n")

def writePreload (p : Preload α) (render : α → String) (folder : String)
    (fileName : Nat → Nat → Nat → String) : Run Unit := do
  for g in List.range p.groups do
    for c in List.range p.processors do
      for i in List.range p.instances do
        if let some entries := p.entries[(g, c, i)]? then
          let path := joinPath folder (fileName g c i)
          Run.createFile path
          Run.emit (.file path) (preloadText render entries)

def newFolder (folder : String) : Run Unit := do
  if (← get).files.isFolder folder then Run.warn s!"{folder} exists"
  else modify fun s => { s with files := s.files.addFolder folder }

def dataFileName (group block inst : Nat) : String :=
  s!"DRAM_x16_{group}_proc_{block * 4}_ram_{inst}.dat"

def writePreloads (base test : String) : Run Unit := do
  let folder (name : String) := joinPath (joinPath base test) name
  let bus := (← get).bus
  if let some p := bus.dataMemory then
    modify fun s => { s with files := s.files.addFolder (folder "data") }
    writePreload p (Text.hex 8) (folder "data") dataFileName
  if let some p := bus.kernelMemory then
    newFolder (folder "masks")
    writePreload p id (folder "masks") fun g c i => s!"MRAM_x16_{g}_proc_{c}_ram_{i}.dat"
  if let some p := bus.outputMemory then
    modify fun s => { s with files := s.files.addFolder (folder "data-output") }
    newFolder (folder "data-expected")
    writePreload p id (folder "data-expected") dataFileName

end CnnForge.Bus
