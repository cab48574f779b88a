/-!
# Data read from a document

The tree that a JSON or TOML document denotes, before anything is known about its meaning.

* `Datum` keeps what a later reader may need: member order, repeated names, and string literals
  that denote no text (`garbled`), which only matter to a reader that looks at them.
* The accessors `text?`, `flag?`, `whole?`, … answer `none` for a datum of another shape.
-/

namespace Portcullis

/-- A value of a document. A member name is `none` where its literal denotes no text; a record is
`spread` when sections of the document make it up rather than one pair of braces. -/
inductive Datum where
  | null
  | flag (value : Bool)
  | whole (value : Int)
  | decimal (literal : String)
  | text (value : String)
  | garbled
  | list (items : List Datum)
  | record (spread : Bool) (members : List (Option String × Datum))
  deriving Inhabited

namespace Datum

/-- A record written between braces. -/
def object (members : List (String × Datum)) : Datum :=
  .record false (members.map fun (name, value) => (some name, value))

/-- A list of texts. -/
def texts (items : List String) : Datum :=
  .list (items.map .text)

/-- The datum of an optional value, `null` where there is none. -/
def ofOption (encode : α → Datum) : Option α → Datum
  | some a => encode a
  | none => .null

def text? : Datum → Option String
  | .text s => some s
  | _ => none

def flag? : Datum → Option Bool
  | .flag b => some b
  | _ => none

/-- A whole number between two bounds, both included. -/
def whole? (least most : Int) : Datum → Option Int
  | .whole n => if least ≤ n && n ≤ most then some n else none
  | _ => none

/-- A list whose items all decode. -/
def list? (decode : Datum → Option α) : Datum → Option (List α)
  | .list items => items.mapM decode
  | _ => none

/-- An optional value, for which `null` stands too. -/
def nullable (decode : Datum → Option α) : Datum → Option (Option α)
  | .null => some none
  | d => (decode d).map some

def u16? (d : Datum) : Option UInt16 :=
  (d.whole? 0 65535).map fun n => n.toNat.toUInt16

def u32? (d : Datum) : Option UInt32 :=
  (d.whole? 0 4294967295).map fun n => n.toNat.toUInt32

def u64? (d : Datum) : Option UInt64 :=
  (d.whole? 0 18446744073709551615).map fun n => n.toNat.toUInt64

/-- The value of a record's first member of a name. -/
def member? (d : Datum) (name : String) : Option Datum :=
  match d with
  | .record _ members => (members.find? fun m => m.1 == some name).map (·.2)
  | _ => none

end Datum

end Portcullis
