import Portcullis.Files.Tree
import Portcullis.Json.Printer
import Portcullis.Json.Reader
import Portcullis.Store.Basic
import Portcullis.Telemetry.Journal

/-!
# Keeping the store in a file

Snapshots are read from a JSON file and written back as indented JSON.

* `readSnapshot` takes a missing file for an empty snapshot; every other fault is an error.
* `Store.save` writes a sibling first and renames it, so that the file is never half written.
-/

namespace Portcullis

open Portcullis.Text
open Portcullis.Telemetry

/-- The bytes of a snapshot's file. -/
def Snapshot.encode (s : Snapshot) : List UInt8 :=
  Utf8.encode (Json.print .indented s.toDatum)

/-- The snapshot that some bytes hold. -/
def Snapshot.decode? (bytes : List UInt8) : Option Snapshot :=
  (Json.read? (Utf8.decode bytes)).bind Snapshot.ofDatum?

namespace Store

/-- An event of the store about its file. -/
def event (level : Level) (message path : String) (more : List (String × String)) : Event :=
  ⟨.store, level, message, ("path", path) :: more⟩

/-- Reads the snapshot of a file. -/
def readSnapshot (files : Files) (path : String) : Except StoreError Snapshot × List Event :=
  match files.read path with
  | .ok bytes =>
    match Snapshot.decode? bytes with
    | some s => (.ok s, [])
    | none => (.error (.invalidSnapshot "no snapshot"), [])
  | .error .notFound =>
    (.ok .empty, [event .warn "Snapshot file not found, starting empty" path []])
  | .error f => (.error (.io f), [])

/-- The store that a file holds. -/
def load (files : Files) (path : String) : Except StoreError Store × List Event :=
  match readSnapshot files path with
  | (.ok s, events) =>
    let store := ofSnapshot s (some path)
    let size (n : Nat) := Decimal.ofNat n
    (.ok store,
      events ++ [event .info "Loaded store snapshot" path
        [("blacklist", size store.blacklist.rows.length),
          ("whitelist", size store.whitelist.rows.length)]])
  | (.error e, events) => (.error e, events)

/-- Reads the store's file again and applies what it holds. -/
def reload (files : Files) (store : Store) : Except StoreError Unit × Store × List Event :=
  match store.path with
  | none => (.ok (), store, [])
  | some path =>
    match readSnapshot files path with
    | (.ok s, events) =>
      (.ok (), store.apply s, events ++ [event .info "Reloaded store snapshot" path []])
    | (.error e, events) => (.error e, store, events)

/-- Writes the store to its file. -/
def save (files : Files) (store : Store) : Except StoreError Unit × Files × List Event :=
  match store.path with
  | none => (.ok (), files, [])
  | some path =>
    let draft := Path.withExtension path "json.tmp"
    match files.write draft store.snapshot.encode with
    | .error f => (.error (.io f), files, [])
    | .ok files =>
      match files.rename draft path with
      | .error f => (.error (.io f), files, [])
      | .ok files => (.ok (), files, [event .info "Saved store snapshot" path []])

end Store

end Portcullis
