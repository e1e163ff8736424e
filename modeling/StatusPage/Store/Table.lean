/-!
Rows under numbers.

A table keeps rows in the order in which they were written, each under a number that no other row of
the table has. A row that does not ask for a number gets the one after the largest in use, so the
number of a deleted row is given again only if no larger one is left. The numbers stay beside the
rows: `Table.rows` is what readers see, and the lemmas say what each write does to it.
-/

namespace StatusPage.Store

/-- Rows with their numbers, in the order in which they were written. -/
structure Table (α : Type) where
  entries : List (Int × α)
  deriving DecidableEq

namespace Table

variable {α : Type}

/-- The table without rows. -/
def empty : Table α := ⟨[]⟩

instance : EmptyCollection (Table α) := ⟨empty⟩

instance : Inhabited (Table α) := ⟨empty⟩

/-- The rows, without their numbers. -/
def rows (t : Table α) : List α := t.entries.map (·.2)

/-- The numbers in use. -/
def numbers (t : Table α) : List Int := t.entries.map (·.1)

/-! ## Numbers -/

/-- The last number that a row can have. -/
def lastNumber : Int := 9223372036854775807

/-- Where the search for a free number begins once the last one is in use. -/
def searchStart : Int := 4611686018427387904

/-- The largest number in use. -/
def largest? (t : Table α) : Option Int :=
  t.numbers.foldl (fun found n => some (found.elim n fun m => if m < n then n else m)) none

/-- The first number that is free from the start of the search downwards. -/
def spare (t : Table α) : Int :=
  (((List.range (t.entries.length + 1)).map fun (k : Nat) => searchStart - k).find? fun n =>
    !t.numbers.contains n).getD searchStart

/-- The number that the next row gets unless it asks for one. -/
def next (t : Table α) : Int :=
  match t.largest? with
  | none => 1
  | some n => if n < lastNumber then n + 1 else t.spare

/-! ## Writes -/

/-- The table with one more row under the next number. -/
def insert (t : Table α) (row : α) : Table α :=
  ⟨t.entries ++ [(t.next, row)]⟩

/-- The table with more rows, one after the other. -/
def insertAll (t : Table α) (rows : List α) : Table α :=
  rows.foldl insert t

/-- The table with one more row under the number that it asks for, if it asks for one. A number that
is in use is refused. -/
def insertAt? (t : Table α) (number : Option Int) (row : α) : Option (Table α) :=
  match number with
  | none => some (t.insert row)
  | some n => if t.numbers.contains n then none else some ⟨t.entries ++ [(n, row)]⟩

/-- The table with the rows that a condition holds of. -/
def filter (t : Table α) (keep : α → Bool) : Table α :=
  ⟨t.entries.filter fun e => keep e.2⟩

/-- The table with every row changed in place. -/
def map (t : Table α) (change : α → α) : Table α :=
  ⟨t.entries.map fun e => (e.1, change e.2)⟩

/-! ## What readers see -/

@[simp] theorem rows_empty : (∅ : Table α).rows = [] := rfl

@[simp] theorem rows_insert (t : Table α) (row : α) : (t.insert row).rows = t.rows ++ [row] := by
  simp [rows, insert]

@[simp] theorem rows_insertAll (t : Table α) (rows : List α) :
    (t.insertAll rows).rows = t.rows ++ rows := by
  induction rows generalizing t with
  | nil => simp [insertAll]
  | cons row rest ih =>
    have step : t.insertAll (row :: rest) = (t.insert row).insertAll rest := rfl
    simp [step, ih]

@[simp] theorem rows_filter (t : Table α) (keep : α → Bool) :
    (t.filter keep).rows = t.rows.filter keep := by
  simp [rows, filter, List.filter_map, Function.comp_def]

@[simp] theorem rows_map (t : Table α) (change : α → α) :
    (t.map change).rows = t.rows.map change := by
  simp [rows, map, Function.comp_def]

end Table

end StatusPage.Store
