import CnnForge.Session

namespace CnnForge

structure OutputFolder where
  base : String
  name : String
  command : String
deriving Repr, Inhabited

namespace OutputFolder

def folder (t : OutputFolder) : String := joinPath t.base t.name

def path (t : OutputFolder) (file : String) : String := joinPath t.folder file

def create (t : OutputFolder) (file : String) : Run Sink := do
  Run.createFile (t.path file)
  return .file (t.path file)

def createIf (t : OutputFolder) (b : Bool) (file : String) : Run (Option Sink) :=
  if b then some <$> t.create file else pure none

def openLog (t : OutputFolder) (d : Device) (file : String) : Run Unit := do
  Run.createFile (t.path file)
  modify fun s => { s with logPath := some (t.path file) }
  Run.put s!"{t.command}\n{d.partNumber}\n\n{t.name}\n"

def origin (t : OutputFolder) : String := s!"// Created using {t.command}\n\n"

end OutputFolder

end CnnForge
