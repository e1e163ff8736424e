import StatusPage.Text.Blank

/-!
Label sets.

A label set gives each of its keys one value. Its pairs are kept in strictly increasing order of
the key, so two sets with the same pairs are equal. A component matches a query when it has every
pair of it, and `get?_insert` says what a set answers after a pair was put in.
-/

namespace StatusPage

/-- A label set: pairs of key and value in strictly increasing order of the key. -/
structure Labels where
  entries : List (String × String)
  ordered : entries.Pairwise fun a b => a.1 < b.1
  deriving DecidableEq

namespace Labels

/-- The set without a pair. -/
def empty : Labels := ⟨[], .nil⟩

instance : EmptyCollection Labels := ⟨empty⟩

instance : Inhabited Labels := ⟨empty⟩

/-- The pairs of a list with one more pair put in its place, or over the pair with its key. -/
def insertPair (key value : String) : List (String × String) → List (String × String)
  | [] => [(key, value)]
  | (k, v) :: rest =>
    if key < k then (key, value) :: (k, v) :: rest
    else if key = k then (key, value) :: rest
    else (k, v) :: insertPair key value rest

theorem mem_insertPair {key value : String} {pairs : List (String × String)}
    {p : String × String} (h : p ∈ insertPair key value pairs) : p = (key, value) ∨ p ∈ pairs := by
  induction pairs with
  | nil => simp_all [insertPair]
  | cons q rest ih =>
    simp only [insertPair] at h
    split at h
    · simpa using h
    · split at h
      · rcases List.mem_cons.1 h with h | h <;> simp [h]
      · rcases List.mem_cons.1 h with h | h
        · simp [h]
        · rcases ih h with h | h <;> simp [h]

theorem pairwise_insertPair {key value : String} {pairs : List (String × String)}
    (h : pairs.Pairwise fun a b => a.1 < b.1) :
    (insertPair key value pairs).Pairwise fun a b => a.1 < b.1 := by
  induction pairs with
  | nil => simp [insertPair]
  | cons q rest ih =>
    obtain ⟨first, others⟩ := List.pairwise_cons.1 h
    simp only [insertPair]
    split
    · next lt =>
      refine List.pairwise_cons.2 ⟨fun p hp => ?_, h⟩
      rcases List.mem_cons.1 hp with rfl | hp
      · exact lt
      · exact String.lt_trans lt (first p hp)
    · split
      · next eq => exact List.pairwise_cons.2 ⟨fun p hp => eq ▸ first p hp, others⟩
      · next not_lt ne =>
        refine List.pairwise_cons.2 ⟨fun p hp => ?_, ih others⟩
        rcases mem_insertPair hp with rfl | hp
        · show q.1 < key
          grind
        · exact first p hp

/-- The set with a value for a key, in place of the one it had. -/
def insert (labels : Labels) (key value : String) : Labels :=
  ⟨insertPair key value labels.entries, pairwise_insertPair labels.ordered⟩

/-- The set of the pairs of a list; of two pairs with one key the later one counts. -/
def ofList (pairs : List (String × String)) : Labels :=
  pairs.foldl (fun labels p => labels.insert p.1 p.2) ∅

/-- The value of a key. -/
def get? (labels : Labels) (key : String) : Option String :=
  labels.entries.lookup key

/-- Whether every pair of the query is in the set. -/
def includes (labels query : Labels) : Bool :=
  query.entries.all fun p => labels.get? p.1 == some p.2

/-- Whether no key is blank. -/
def keysVisible (labels : Labels) : Bool :=
  labels.entries.all fun p => !Text.blank p.1

/-! ## A set is what it answers -/

theorem lookup_pair (other : String) (p : String × String) (rest : List (String × String)) :
    (p :: rest).lookup other = if other = p.1 then some p.2 else rest.lookup other := by
  obtain ⟨key, value⟩ := p
  rw [List.lookup_cons]
  by_cases found : other = key
  · simp [found]
  · simp [found, beq_false_of_ne found]

theorem lookup_insertPair (key value other : String) (pairs : List (String × String)) :
    (insertPair key value pairs).lookup other =
      if other = key then some value else pairs.lookup other := by
  induction pairs with
  | nil => simp [insertPair]
  | cons p rest ih =>
    simp only [insertPair]
    split
    · simp only [lookup_pair]
    · split <;> simp only [lookup_pair, ih] <;> grind

theorem get?_insert (labels : Labels) (key value other : String) :
    (labels.insert key value).get? other =
      if other = key then some value else labels.get? other :=
  lookup_insertPair key value other labels.entries

@[simp] theorem get?_empty (key : String) : (∅ : Labels).get? key = none := rfl

end Labels

end StatusPage
