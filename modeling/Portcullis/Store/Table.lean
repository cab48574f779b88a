import Portcullis.Store.Row

/-!
# Tables

Rows by id.  A table keeps its rows in the order of their ids and each id once, so that two
tables that answer alike are the same.

* `Table.insert` puts a row in place of the one with its id, `Table.erase` takes one away.
* `Table.get?` finds a row.
-/

namespace Portcullis

variable {ρ : Type} [Row ρ]

/-- Rows in the order of their ids, each id once. -/
structure Table (ρ : Type) [Row ρ] where
  rows : List ρ
  ordered : rows.Pairwise fun a b => Row.id a < Row.id b

namespace Table

def empty : Table ρ :=
  ⟨[], .nil⟩

/-- Puts a row where its id belongs, in place of a row with that id. -/
def insertRow (r : ρ) : List ρ → List ρ
  | [] => [r]
  | x :: xs =>
    if Row.id r < Row.id x then r :: x :: xs
    else if Row.id x < Row.id r then x :: insertRow r xs
    else r :: xs

theorem mem_insertRow {r a : ρ} {rows : List ρ} (h : a ∈ insertRow r rows) :
    a = r ∨ a ∈ rows := by
  induction rows with
  | nil => simpa [insertRow] using h
  | cons x xs ih =>
    rw [insertRow] at h
    split at h
    · simpa using h
    · split at h
      · rcases List.mem_cons.1 h with rfl | h
        · simp
        · rcases ih h with rfl | h <;> simp [*]
      · rcases List.mem_cons.1 h with rfl | h <;> simp [*]

theorem ordered_insertRow (r : ρ) {rows : List ρ}
    (h : rows.Pairwise fun a b => Row.id a < Row.id b) :
    (insertRow r rows).Pairwise fun a b => Row.id a < Row.id b := by
  induction rows with
  | nil => simp [insertRow]
  | cons x xs ih =>
    obtain ⟨hx, hxs⟩ := List.pairwise_cons.1 h
    rw [insertRow]
    split
    · rename_i hlt
      refine List.pairwise_cons.2 ⟨fun a ha => ?_, h⟩
      rcases List.mem_cons.1 ha with rfl | ha
      · exact hlt
      · exact UInt32.lt_trans hlt (hx a ha)
    · split
      · rename_i hlt
        refine List.pairwise_cons.2 ⟨fun a ha => ?_, ih hxs⟩
        rcases mem_insertRow ha with rfl | ha
        · exact hlt
        · exact hx a ha
      · rename_i h₁ h₂
        have heq : Row.id r = Row.id x :=
          UInt32.le_antisymm (UInt32.not_lt.1 h₂) (UInt32.not_lt.1 h₁)
        exact List.pairwise_cons.2 ⟨fun a ha => heq ▸ hx a ha, hxs⟩

/-- The row of an id. -/
def get? (t : Table ρ) (id : UInt32) : Option ρ :=
  t.rows.find? fun r => Row.id r == id

/-- Puts a row in place of the one with its id. -/
def insert (t : Table ρ) (r : ρ) : Table ρ :=
  ⟨insertRow r t.rows, ordered_insertRow r t.ordered⟩

/-- The rows that satisfy a test. -/
def filter (t : Table ρ) (keep : ρ → Bool) : Table ρ :=
  ⟨t.rows.filter keep, t.ordered.filter _⟩

/-- Takes the row of an id away. -/
def erase (t : Table ρ) (id : UInt32) : Table ρ :=
  t.filter fun r => Row.id r != id

/-- A table of rows, where the last one of an id stays. -/
def ofList (rows : List ρ) : Table ρ :=
  rows.foldl insert empty

end Table

end Portcullis
