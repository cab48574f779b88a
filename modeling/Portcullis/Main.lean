import Portcullis.Command.Run
import Portcullis.Files.Deed

/-!
# The command line

Runs a command on the files of the machine: what the command may look at is read beforehand, and
what it has changed is written afterwards.  There is no network client, so that no oracle answers.
-/

namespace Portcullis.Main

/-- The tree with what stands at a path of the machine. -/
def mount (files : Files) (path : String) : IO Files := do
  match ← (IO.FS.readBinFile path).toBaseIO with
  | .ok bytes =>
    let files := (files.makeDirs ((Path.parent? path).getD "")).2
    return (files.perform (.write path bytes.toList)).2
  | .error (.noFileOrDirectory ..) => return files
  | .error _ => return (files.makeDirs path).2

/-- A tree with nothing but the working directory. -/
def ground : IO Files := do
  let here := toString (← IO.currentDir)
  let files := (Files.empty.makeDirs here).2
  return { files with workingDir := (files.place? here).getD [] }

/-- The tree with everything that a command may look at. -/
def mountFor (c : Command) : IO Files := do
  let files ← (Command.paths Files.empty c).foldlM mount (← ground)
  (Command.paths files c).foldlM mount files

/-- Writes a file that a command has changed, in one step. -/
def writeBack (before after : Files) (path : String) : IO Unit := do
  match after.read path with
  | .error _ => return
  | .ok bytes =>
    if (before.read path).toOption == some bytes then return
    if let some up := Path.parent? path then
      unless up.isEmpty do IO.FS.createDirAll up
    let draft := Staged.draftOf path
    IO.FS.writeBinFile draft ⟨bytes.toArray⟩
    IO.FS.rename draft path

def run (arguments : List String) : IO UInt32 := do
  let before ←
    match Command.read arguments with
    | .run c => mountFor c
    | _ => ground
  let ending := Command.execute (fun _ _ => none) arguments before
  if let .run c := Command.read arguments then
    (Command.paths before c).forM (writeBack before ending.files)
  IO.print ending.out
  IO.eprint ending.err
  return ending.status.toUInt32

end Portcullis.Main

def main (arguments : List String) : IO UInt32 :=
  Portcullis.Main.run arguments
