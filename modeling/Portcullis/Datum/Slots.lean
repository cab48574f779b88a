import Portcullis.Datum.Basic

/-!
# Reading records with known fields

A record type lists its fields in order.  A datum fills them either as a record, by name, or as
a list, by position; what it leaves out may have a default.

* `Slots.ofDatum?` fills the fields.  Members of other names are passed over unseen, but a field
  that is filled twice, or a member name that is no text, spoils the record.
* `Slots.require`, `Slots.fallback` and `Slots.optional` read one field.
* `Dialect.choice?` reads one of finitely many named alternatives.
-/

namespace Portcullis

/-- Where document formats differ in how they fill records and name alternatives. -/
structure Dialect where
  /-- A list may hold more items than the record has fields. -/
  overlong : Bool
  /-- What may stand beside the name of an alternative that holds nothing. -/
  isNothing : Datum → Bool

/-- The datum that fills each field of a record, by field name. -/
def Slots := String → Option Datum

namespace Slots

/-- The member of a name, unless there are several. -/
def unique? (members : List (Option String × Datum)) (name : String) : Option (Option Datum) :=
  match members.filter fun m => m.1 == some name with
  | [] => some none
  | [m] => some (some m.2)
  | _ => none

/-- The item at the position that a field has. -/
def atPosition (names : List String) (items : List Datum) : Slots := fun name =>
  items[names.idxOf name]?

/-- Fills the fields of a record. -/
def ofDatum? (dialect : Dialect) (names : List String) : Datum → Option Slots
  | .record _ members =>
    if members.any (·.1.isNone) then none
    else if names.all fun name => (unique? members name).isSome then
      some fun name => (unique? members name).join
    else none
  | .list items =>
    if dialect.overlong || items.length ≤ names.length then some (atPosition names items)
    else none
  | _ => none

/-- A field that has to be filled. -/
def require (slots : Slots) (name : String) (decode : Datum → Option α) : Option α :=
  (slots name).bind decode

/-- A field with a default. -/
def fallback (slots : Slots) (name : String) (default : α) (decode : Datum → Option α) :
    Option α :=
  match slots name with
  | none => some default
  | some d => decode d

/-- A field that may be left out or be `null`. -/
def optional (slots : Slots) (name : String) (decode : Datum → Option α) : Option (Option α) :=
  slots.fallback name none (Datum.nullable decode)

end Slots

/-- One of the named alternatives: its bare name, or a record that holds the name with nothing. -/
def Dialect.choice? (dialect : Dialect) (alternatives : List (String × α)) : Datum → Option α
  | .text s => alternatives.lookup s
  | .record false [(some name, d)] =>
    if dialect.isNothing d then alternatives.lookup name else none
  | .record true ((some name, d) :: _) =>
    if dialect.isNothing d then alternatives.lookup name else none
  | _ => none

/-- JSON holds a list to the number of fields, and `null` is nothing. -/
def Dialect.json : Dialect where
  overlong := false
  isNothing
    | .null => true
    | _ => false

/-- TOML passes over surplus items, and an empty list or table is nothing. -/
def Dialect.toml : Dialect where
  overlong := true
  isNothing
    | .list [] => true
    | .record _ [] => true
    | _ => false

end Portcullis
