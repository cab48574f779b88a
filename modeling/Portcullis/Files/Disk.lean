import Portcullis.Files.Tree

/-!
# Disks

What a program needs of the place where it keeps its files.  An operation answers a fault or
succeeds, and the disk may have changed either way.

A tree of files is a disk that never fails without a reason.  On a browsable disk one can also see
what a path leads to.
-/

namespace Portcullis

open Portcullis.Text

/-- The file operations that the writer of generated files uses. -/
class Disk (σ : Type) where
  read : σ → String → Except Fault (List UInt8)
  makeDirs : String → σ → Except Fault Unit × σ
  write : String → List UInt8 → σ → Except Fault Unit × σ
  rename : String → String → σ → Except Fault Unit × σ
  remove : String → σ → Except Fault Unit × σ

/-- An operation that leaves the disk as it was when it fails. -/
def Disk.attempt (act : σ → Except Fault σ) (s : σ) : Except Fault Unit × σ :=
  match act s with
  | .ok s => (.ok (), s)
  | .error f => (.error f, s)

instance : Disk Files where
  read := Files.read
  makeDirs path t := t.makeDirs path
  write path content := Disk.attempt (·.write path content)
  rename source target := Disk.attempt (·.rename source target)
  remove path := Disk.attempt (·.remove path)

/-- A disk that shows what a path leads to. -/
class Browsable (σ : Type) extends Disk σ where
  /-- Whether a path leads to anything. -/
  isPresent : σ → String → Bool
  /-- Whether a path leads to a file. -/
  isFile : σ → String → Bool

instance : Browsable Files where
  isPresent := Files.isPresent
  isFile := Files.isFile

end Portcullis
