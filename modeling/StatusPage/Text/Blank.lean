/-!
White space and trimming.

Names and keys are refused when nothing but white space is in them, and selectors are trimmed at
both ends of each part. White space is the Unicode property `White_Space`: the six ASCII blanks,
the no-break space and the typographic spaces, but neither the zero-width characters nor the
control characters beside the line ends.
-/

namespace StatusPage.Text

/-- The code points with the property `White_Space`. -/
def isBlank (c : Char) : Bool :=
  let n := c.toNat
  (0x09 ≤ n && n ≤ 0x0D) || n == 0x20 || n == 0x85 || n == 0xA0 || n == 0x1680 ||
    (0x2000 ≤ n && n ≤ 0x200A) || n == 0x2028 || n == 0x2029 || n == 0x202F || n == 0x205F ||
    n == 0x3000

/-- The text without the white space it starts with. -/
def trimStart (cs : List Char) : List Char :=
  cs.dropWhile isBlank

/-- The text without the white space it ends with. -/
def trimEnd (cs : List Char) : List Char :=
  (cs.reverse.dropWhile isBlank).reverse

/-- The text without the white space at either end. -/
def trim (cs : List Char) : List Char :=
  trimEnd (trimStart cs)

/-- Whether a text has nothing but white space in it. -/
def blank (s : String) : Bool :=
  s.toList.all isBlank

theorem trimStart_of_visible {c : Char} (visible : isBlank c = false) (rest : List Char) :
    trimStart (c :: rest) = c :: rest := by
  rw [trimStart, List.dropWhile_cons, visible]
  rfl

/-- Dropping white space leaves nothing exactly of a text that is all white space. -/
theorem trimStart_eq_nil_iff {cs : List Char} : trimStart cs = [] ↔ ∀ c ∈ cs, isBlank c = true := by
  induction cs with
  | nil => simp [trimStart]
  | cons c cs ih => by_cases h : isBlank c <;> simp_all [trimStart]

/-- A text is blank exactly when trimming leaves nothing of it. -/
theorem trim_eq_nil_iff {cs : List Char} : trim cs = [] ↔ ∀ c ∈ cs, isBlank c = true := by
  have ends : trim cs = [] ↔ ∀ c ∈ trimStart cs, isBlank c = true := by
    have reversed : trimStart (trimStart cs).reverse = [] ↔ _ := trimStart_eq_nil_iff
    simp only [List.mem_reverse] at reversed
    rw [← reversed]
    simp [trim, trimEnd, trimStart]
  rw [ends]
  constructor
  · intro rest c member
    rw [← List.takeWhile_append_dropWhile (p := isBlank) (l := cs), List.mem_append] at member
    rcases member with member | member
    · exact List.all_eq_true.1 List.all_takeWhile c member
    · exact rest c member
  · intro all c member
    exact all c (List.dropWhile_sublist isBlank |>.subset member)

end StatusPage.Text
