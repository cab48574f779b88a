import Portcullis.Net.Address
import Portcullis.Store.Table

/-!
# Access lists

A table of access rows, keyed by id and searched by address.

* Rows enter with their address in canonical form (`AccessRow.canonical`).
* `AccessList.replace` takes over the rows of a snapshot and lets no tally run backwards.
* `AccessList.find?` sees enabled rows only.
-/

namespace Portcullis

/-- A row whose address is in canonical form, if it is an address. -/
def AccessRow.canonical (r : AccessRow ε) : AccessRow ε :=
  { r with ip := (Net.canonical? r.ip).getD r.ip }

abbrev AccessList (ε : Type) := Table (AccessRow ε)

namespace AccessList

variable {ε : Type}

/-- Enters a row in place of the one with its id. -/
def enter (list : AccessList ε) (r : AccessRow ε) : AccessList ε :=
  list.insert r.canonical

/-- A list of rows, where the last one of an id stays. -/
def ofRows (rows : List (AccessRow ε)) : AccessList ε :=
  rows.foldl enter .empty

/-- Enters a row whose tally is merged with the one held under its id. -/
def merge (list : AccessList ε) (r : AccessRow ε) : AccessList ε :=
  let tally :=
    match list.get? r.id with
    | some live => r.tally.merge live.tally
    | none => r.tally
  list.enter { r with tally := tally }

/-- Takes over the rows of a snapshot: rows that it lacks go, and the others are merged. -/
def replace (list : AccessList ε) (rows : List (AccessRow ε)) : AccessList ε :=
  rows.foldl merge (list.filter fun r => rows.any (·.id == r.id))

/-- The enabled row of an address, which is compared as text. -/
def find? (list : AccessList ε) (ip : String) : Option (AccessRow ε) :=
  list.rows.find? fun r => !r.disabled && r.ip == ip

/-- Changes the row of an id, if there is one, and tells whether there was. The change keeps the
id. -/
def change (list : AccessList ε) (id : UInt32) (f : AccessRow ε → AccessRow ε) :
    Bool × AccessList ε :=
  match list.get? id with
  | some r => (true, list.insert { f r with id := r.id })
  | none => (false, list)

def setDisabled (list : AccessList ε) (id : UInt32) (disabled : Bool) : Bool × AccessList ε :=
  list.change id fun r => { r with disabled := disabled }

/-- Counts a hit of the row of an id. -/
def hit (list : AccessList ε) (id : UInt32) (time : UInt64) : Bool × AccessList ε :=
  list.change id fun r => { r with tally := r.tally.hit time }

end AccessList

end Portcullis
