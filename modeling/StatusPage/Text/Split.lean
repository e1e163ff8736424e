/-!
Splitting texts at a character.

`pieces` cuts at every occurrence, so a text with no occurrence is one piece and neighbouring
occurrences have an empty piece between them; `splitFirst?` cuts at the first one only. The main
statements are `intercalate_pieces` and `pieces_intercalate`: the pieces with the character between
them are the text again, and texts without the character are the pieces of what they are joined to.
-/

namespace StatusPage.Text

/-- The pieces between the occurrences of a character. -/
def pieces (separator : Char) : List Char → List (List Char)
  | [] => [[]]
  | c :: cs =>
    if c = separator then [] :: pieces separator cs
    else match pieces separator cs with
      | [] => [[c]]
      | piece :: rest => (c :: piece) :: rest

/-- What stands before and after the first occurrence of a character. -/
def splitFirst? (separator : Char) : List Char → Option (List Char × List Char)
  | [] => none
  | c :: cs =>
    if c = separator then some ([], cs)
    else (splitFirst? separator cs).map fun (front, back) => (c :: front, back)

theorem pieces_ne_nil (separator : Char) (cs : List Char) : pieces separator cs ≠ [] := by
  cases cs with
  | nil => simp [pieces]
  | cons c cs =>
    simp only [pieces]
    split
    · simp
    · split <;> simp

theorem intercalate_pieces (separator : Char) (cs : List Char) :
    [separator].intercalate (pieces separator cs) = cs := by
  induction cs with
  | nil => simp [pieces, List.intercalate]
  | cons c cs ih =>
    simp only [pieces]
    split
    · next eq =>
      cases split : pieces separator cs with
      | nil => exact absurd split (pieces_ne_nil separator cs)
      | cons piece rest =>
        rw [split] at ih
        simpa [List.intercalate, eq] using ih
    · cases split : pieces separator cs with
      | nil => exact absurd split (pieces_ne_nil separator cs)
      | cons piece rest =>
        rw [split] at ih
        cases rest with
        | nil => simpa [List.intercalate] using ih
        | cons next rest => simpa [List.intercalate] using ih

theorem pieces_eq_splitOn (separator : Char) (cs : List Char) :
    pieces separator cs = cs.splitOn separator := by
  induction cs with
  | nil => simp [pieces]
  | cons c cs ih =>
    rw [pieces, List.splitOn_cons_eq_if_modifyHead, ih]
    by_cases found : c = separator
    · simp [found]
    · cases split : cs.splitOn separator with
      | nil => exact absurd split (List.splitOn_ne_nil separator cs)
      | cons piece rest => simp [found]

/-- Texts without the character are the pieces of what they are joined to. -/
theorem pieces_intercalate {separator : Char} {segments : List (List Char)}
    (apart : ∀ segment ∈ segments, separator ∉ segment) (some_segment : segments ≠ []) :
    pieces separator ([separator].intercalate segments) = segments := by
  rw [pieces_eq_splitOn, List.splitOn_intercalate separator apart some_segment]

/-- No piece has the character in it. -/
theorem not_mem_of_mem_pieces {separator : Char} {cs piece : List Char}
    (member : piece ∈ pieces separator cs) : separator ∉ piece := by
  induction cs generalizing piece with
  | nil =>
    obtain rfl : piece = [] := by simpa [pieces] using member
    simp
  | cons c cs ih =>
    simp only [pieces] at member
    split at member
    · rcases List.mem_cons.1 member with rfl | member
      · simp
      · exact ih member
    · next other =>
      cases split : pieces separator cs with
      | nil => exact absurd split (pieces_ne_nil separator cs)
      | cons first rest =>
        rw [split] at member ih
        rcases List.mem_cons.1 member with rfl | member
        · simp [Ne.symm other, ih List.mem_cons_self]
        · exact ih (List.mem_cons_of_mem _ member)

theorem eq_append_of_splitFirst? {separator : Char} {cs front back : List Char}
    (h : splitFirst? separator cs = some (front, back)) : cs = front ++ separator :: back := by
  induction cs generalizing front with
  | nil => simp [splitFirst?] at h
  | cons c cs ih =>
    simp only [splitFirst?] at h
    split at h
    · simp_all
    · obtain ⟨⟨front', back'⟩, found, eq⟩ := Option.map_eq_some_iff.1 h
      simp only [Prod.mk.injEq] at eq
      obtain ⟨rfl, rfl⟩ := eq
      simp [ih found]

theorem splitFirst?_append {separator : Char} {front : List Char} (first : separator ∉ front)
    (back : List Char) : splitFirst? separator (front ++ separator :: back) = some (front, back) := by
  induction front with
  | nil => simp [splitFirst?]
  | cons c front ih =>
    have other : c ≠ separator := fun same => first (same ▸ List.mem_cons_self)
    have later : separator ∉ front := fun member => first (List.mem_cons_of_mem c member)
    simp [splitFirst?, other, ih later]

theorem splitFirst?_eq_none_iff {separator : Char} {cs : List Char} :
    splitFirst? separator cs = none ↔ separator ∉ cs := by
  induction cs with
  | nil => simp [splitFirst?]
  | cons c cs ih =>
    by_cases found : c = separator
    · simp [splitFirst?, found]
    · simp [splitFirst?, found, Ne.symm found, ih]

/-- The front of a text goes up to the first occurrence, and the back is all that follows it. -/
theorem splitFirst?_eq_some_iff {separator : Char} {cs front back : List Char} :
    splitFirst? separator cs = some (front, back) ↔
      cs = front ++ separator :: back ∧ separator ∉ front := by
  constructor
  · intro found
    refine ⟨eq_append_of_splitFirst? found, ?_⟩
    induction cs generalizing front with
    | nil => cases found
    | cons c cs ih =>
      simp only [splitFirst?] at found
      split at found
      · simp_all
      · next other =>
        obtain ⟨⟨front', back'⟩, later, eq⟩ := Option.map_eq_some_iff.1 found
        cases eq
        simp [Ne.symm other, ih later]
  · rintro ⟨rfl, first⟩
    exact splitFirst?_append first back

end StatusPage.Text
