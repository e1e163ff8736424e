import Mathlib
import StatusPage.Labels.Selector
import StatusPage.Proofs.Accepted
import StatusPage.Proofs.LabelSets
import StatusPage.Proofs.Text.Trimming

/-!
# The grammar of selectors

A selector is read part by part into a growing query. This module says what is read without any
order: `Selects` are the pairs that the parts of a selector ask for, and `Grammatical` says when
they are a query at all. `get?_selectAll` and `exists_selectAll` carry the growing query through the
parts, and `parseSelector_accepts` puts the two sides together: exactly the grammatical selectors
are read, each as the set of the pairs that it asks for.
-/

namespace StatusPage.Labels

open Text

/-! ## The grammar -/

/-- A part of a selector: what stands between two commas and has something visible in it. -/
def Part (selector : String) (part : List Char) : Prop :=
  part ∈ pieces ',' selector.toList ∧ trim part ≠ []

/-- The pair that a part asks for: the key stands before the first colon and the value after it.
White space around either does not count. -/
def Asks (part : List Char) (key value : String) : Prop :=
  ∃ front back, part = front ++ ':' :: back ∧ ':' ∉ front ∧
    key = String.ofList (trim front) ∧ value = String.ofList (trim back)

/-- The pairs that the parts of a selector ask for. -/
def Selects (selector : String) (key value : String) : Prop :=
  ∃ part, Part selector part ∧ Asks part key value

/-- Every part asks for a value of a visible key, and no key is asked for with two values. -/
structure Grammatical (selector : String) : Prop where
  colon : ∀ part, Part selector part → ':' ∈ part
  key : ∀ key value, Selects selector key value → key ≠ ""
  single : ∀ key first second, Selects selector key first → Selects selector key second →
    first = second

/-! ## One part -/

theorem asks_iff {part : List Char} {key value : String} :
    Asks part key value ↔ ∃ front back, splitFirst? ':' part = some (front, back) ∧
      key = String.ofList (trim front) ∧ value = String.ofList (trim back) := by
  simp only [Asks, splitFirst?_eq_some_iff, and_assoc]

/-- A part with a colon asks for some pair. -/
theorem exists_asks {part : List Char} (colon : ':' ∈ part) : ∃ key value, Asks part key value := by
  obtain ⟨front, back, rfl, first⟩ := List.eq_append_cons_of_mem colon
  exact ⟨_, _, front, back, rfl, first, rfl, rfl⟩

theorem Asks.colon {part : List Char} {key value : String} (asks : Asks part key value) :
    ':' ∈ part := by
  obtain ⟨front, back, rfl, -, -, -⟩ := asks
  simp

/-- A part asks for one pair. -/
theorem Asks.unique {part : List Char} {key key' value value' : String}
    (asks : Asks part key value) (asks' : Asks part key' value') : key = key' ∧ value = value' := by
  obtain ⟨front, back, split, rfl, rfl⟩ := asks_iff.1 asks
  obtain ⟨front', back', split', rfl, rfl⟩ := asks_iff.1 asks'
  cases split.symm.trans split'
  exact ⟨rfl, rfl⟩

/-- Trimming a part moves neither its first colon nor anything visible. -/
theorem splitFirst?_trim (part : List Char) :
    splitFirst? ':' (trim part) =
      (splitFirst? ':' part).map fun (front, back) => (trimStart front, trimEnd back) := by
  cases found : splitFirst? ':' part with
  | none =>
    have absent := splitFirst?_eq_none_iff.1 found
    exact splitFirst?_eq_none_iff.2 fun member => absent (mem_of_mem_trim member)
  | some halves =>
    obtain ⟨front, back⟩ := halves
    obtain ⟨rfl, first⟩ := splitFirst?_eq_some_iff.1 found
    have first' : ':' ∉ trimStart front :=
      fun member => first ((List.dropWhile_sublist isBlank).subset member)
    rw [trim_append_visible (by decide), splitFirst?_append first']
    rfl

/-- What is made of a trimmed part is the pair that the part asks for. -/
theorem pairOf_trim_ok_iff {part : List Char} {key value : String} :
    pairOf (trim part) = .ok (key, value) ↔ Asks part key value ∧ key ≠ "" := by
  rw [asks_iff, pairOf, splitFirst?_trim]
  cases splitFirst? ':' part with
  | none => simp
  | some halves =>
    obtain ⟨front, back⟩ := halves
    simp only [Option.map_some, trim_trimStart, trim_trimEnd, Option.some.injEq, Prod.mk.injEq]
    by_cases blank : trim front = []
    · rw [if_pos blank]
      constructor
      · intro made
        cases made
      · rintro ⟨⟨front', back', ⟨rfl, rfl⟩, rfl, -⟩, visible⟩
        exact absurd (congrArg String.ofList blank) visible
    · rw [if_neg blank, Except.ok.injEq, Prod.mk.injEq]
      constructor
      · rintro ⟨rfl, rfl⟩
        exact ⟨⟨front, back, ⟨rfl, rfl⟩, rfl, rfl⟩, by simpa using blank⟩
      · rintro ⟨⟨front', back', ⟨rfl, rfl⟩, rfl, rfl⟩, -⟩
        exact ⟨rfl, rfl⟩

theorem pairOf_error {segment : List Char} {error : Error} (refused : pairOf segment = .error error) :
    error.kind = .invalidArgument := by
  unfold pairOf at refused
  split at refused
  · cases refused
    rfl
  · split at refused
    · cases refused
      rfl
    · cases refused

/-! ## The growing query -/

theorem select_ok_iff {query next : Labels} {key value : String} :
    query.select key value = .ok next ↔
      (∀ first, query.get? key = some first → first = value) ∧ next = query.insert key value := by
  rw [select]
  cases query.get? key with
  | none => simp [eq_comm]
  | some first =>
    by_cases same : first = value
    · simp [same, eq_comm]
    · simp [same]

theorem select_error {query : Labels} {key value : String} {error : Error}
    (refused : query.select key value = .error error) : error.kind = .invalidArgument := by
  unfold select at refused
  split at refused
  · split at refused
    · cases refused
    · cases refused
      rfl
  · cases refused

/-- The pairs of a query together with those that further parts are made into. -/
def Asked (query : Labels) (segments : List (List Char)) (key value : String) : Prop :=
  query.get? key = some value ∨ ∃ segment ∈ segments, pairOf segment = .ok (key, value)

theorem asked_nil {query : Labels} {key value : String} :
    Asked query [] key value ↔ query.get? key = some value := by
  simp [Asked]

/-- A pair that does not clash moves from the parts into the query. -/
theorem asked_cons {query : Labels} {segment : List Char} {rest : List (List Char)}
    {key value : String} (pair : pairOf segment = .ok (key, value))
    (agrees : ∀ first, query.get? key = some first → first = value) (key' value' : String) :
    Asked (query.insert key value) rest key' value' ↔ Asked query (segment :: rest) key' value' := by
  have inserted : (query.insert key value).get? key' = some value' ↔
      query.get? key' = some value' ∨ (key, value) = (key', value') := by
    rw [get?_insert, Prod.mk.injEq]
    by_cases same : key' = key
    · subst same
      rw [if_pos rfl, Option.some.injEq]
      constructor
      · intro new
        exact Or.inr ⟨rfl, new⟩
      · rintro (old | ⟨-, new⟩)
        · exact (agrees value' old).symm
        · exact new
    · rw [if_neg same]
      simp [Ne.symm same]
  rw [Asked, Asked, List.exists_mem_cons_iff, pair, Except.ok.injEq, inserted, or_assoc]

/-- A query that was read from parts has its own pairs and theirs, and every part made one. -/
theorem get?_selectAll {query result : Labels} {segments : List (List Char)}
    (read : selectAll query segments = .ok result) :
    (∀ segment ∈ segments, ∃ key value, pairOf segment = .ok (key, value)) ∧
      ∀ key value, result.get? key = some value ↔ Asked query segments key value := by
  induction segments generalizing query with
  | nil =>
    cases read
    exact ⟨by simp, fun key value => asked_nil.symm⟩
  | cons segment rest ih =>
    obtain ⟨⟨key, value⟩, pair, read⟩ := bind_ok_iff.1 read
    obtain ⟨next, selected, read⟩ := bind_ok_iff.1 read
    obtain ⟨agrees, rfl⟩ := select_ok_iff.1 selected
    obtain ⟨pairs, answers⟩ := ih read
    refine ⟨List.forall_mem_cons.2 ⟨⟨key, value, pair⟩, pairs⟩, fun key' value' => ?_⟩
    rw [answers, asked_cons pair agrees]

/-- Parts that make pairs are read as long as no key gets two values. -/
theorem exists_selectAll {query : Labels} {segments : List (List Char)}
    (pairs : ∀ segment ∈ segments, ∃ key value, pairOf segment = .ok (key, value))
    (single : ∀ key first second, Asked query segments key first →
      Asked query segments key second → first = second) :
    ∃ result, selectAll query segments = .ok result := by
  induction segments generalizing query with
  | nil => exact ⟨query, rfl⟩
  | cons segment rest ih =>
    obtain ⟨⟨key, value, pair⟩, pairs⟩ := List.forall_mem_cons.1 pairs
    have asked : Asked query (segment :: rest) key value := Or.inr ⟨segment, List.mem_cons_self, pair⟩
    have agrees : ∀ first, query.get? key = some first → first = value :=
      fun first old => single key first value (Or.inl old) asked
    have still_single : ∀ key' first second, Asked (query.insert key value) rest key' first →
        Asked (query.insert key value) rest key' second → first = second := by
      simpa only [asked_cons pair agrees] using single
    obtain ⟨result, read⟩ := ih pairs still_single
    refine ⟨result, bind_ok_iff.2 ⟨(key, value), pair, bind_ok_iff.2 ⟨_, ?_, read⟩⟩⟩
    exact select_ok_iff.2 ⟨agrees, rfl⟩

theorem selectAll_error {query : Labels} {segments : List (List Char)} {error : Error}
    (refused : selectAll query segments = .error error) : error.kind = .invalidArgument := by
  induction segments generalizing query with
  | nil => cases refused
  | cons segment rest ih =>
    rcases bind_error_iff.1 refused with refused | ⟨⟨key, value⟩, -, refused⟩
    · exact pairOf_error refused
    rcases bind_error_iff.1 refused with refused | ⟨next, -, refused⟩
    · exact select_error refused
    · exact ih refused

/-! ## The whole selector -/

theorem mem_segments_iff {selector : String} {segment : List Char} :
    segment ∈ segments selector.toList ↔ ∃ part, Part selector part ∧ trim part = segment := by
  simp only [segments, Part, List.mem_filter, List.mem_map, decide_eq_true_eq]
  constructor
  · rintro ⟨⟨part, member, rfl⟩, visible⟩
    exact ⟨part, ⟨member, visible⟩, rfl⟩
  · rintro ⟨part, ⟨member, visible⟩, rfl⟩
    exact ⟨⟨part, member, rfl⟩, visible⟩

/-- A part is made into a pair exactly if it asks for one with a visible key. -/
theorem asked_segments_iff {selector : String} {key value : String} :
    Asked ∅ (segments selector.toList) key value ↔ Selects selector key value ∧ key ≠ "" := by
  simp only [Asked, get?_empty, reduceCtorEq, false_or, mem_segments_iff, Selects]
  constructor
  · rintro ⟨segment, ⟨part, member, rfl⟩, pair⟩
    obtain ⟨asks, visible⟩ := pairOf_trim_ok_iff.1 pair
    exact ⟨⟨part, member, asks⟩, visible⟩
  · rintro ⟨⟨part, member, asks⟩, visible⟩
    exact ⟨trim part, ⟨part, member, rfl⟩, pairOf_trim_ok_iff.2 ⟨asks, visible⟩⟩

/-- A selector that is read is grammatical, and it is read as the pairs that its parts ask for. -/
theorem selects_of_parseSelector {selector : String} {query : Labels}
    (read : parseSelector selector = .ok query) :
    Grammatical selector ∧ ∀ key value, query.get? key = some value ↔ Selects selector key value := by
  obtain ⟨pairs, answers⟩ := get?_selectAll read
  have visible : ∀ key value, Selects selector key value → key ≠ "" := by
    rintro key value ⟨part, member, asks⟩
    obtain ⟨key', value', pair⟩ := pairs (trim part) (mem_segments_iff.2 ⟨part, member, rfl⟩)
    obtain ⟨asks', visible⟩ := pairOf_trim_ok_iff.1 pair
    rw [(asks.unique asks').1]
    exact visible
  have selects : ∀ key value, query.get? key = some value ↔ Selects selector key value := by
    intro key value
    rw [answers, asked_segments_iff, and_iff_left_of_imp (visible key value)]
  refine ⟨⟨?_, visible, ?_⟩, selects⟩
  · intro part member
    obtain ⟨key, value, pair⟩ := pairs (trim part) (mem_segments_iff.2 ⟨part, member, rfl⟩)
    exact (pairOf_trim_ok_iff.1 pair).1.colon
  · intro key first second one other
    rw [← selects] at one other
    exact Option.some.inj (one.symm.trans other)

/-- A grammatical selector is read. -/
theorem Grammatical.exists_parseSelector {selector : String} (grammatical : Grammatical selector) :
    ∃ query, parseSelector selector = .ok query := by
  apply exists_selectAll
  · intro segment member
    obtain ⟨part, present, rfl⟩ := mem_segments_iff.1 member
    obtain ⟨key, value, asks⟩ := exists_asks (grammatical.colon part present)
    have visible := grammatical.key key value ⟨part, present, asks⟩
    exact ⟨key, value, pairOf_trim_ok_iff.2 ⟨asks, visible⟩⟩
  · intro key first second one other
    exact grammatical.single key first second (asked_segments_iff.1 one).1
      (asked_segments_iff.1 other).1

/-- Selectors with the same parts ask for the same pairs, whatever the order and however often. -/
theorem selects_congr {one other : String} (same : ∀ part, Part other part ↔ Part one part)
    (key value : String) : Selects other key value ↔ Selects one key value := by
  simp only [Selects, same]

theorem Grammatical.congr {one other : String} (same : ∀ part, Part other part ↔ Part one part)
    (grammatical : Grammatical one) : Grammatical other := by
  constructor
  · exact fun part member => grammatical.colon part ((same part).1 member)
  · simpa only [selects_congr same] using grammatical.key
  · simpa only [selects_congr same] using grammatical.single

/-- A query is included in a label set that has every pair that the selector asks for. -/
theorem includes_iff_selects {selector : String} {query : Labels}
    (selects : ∀ key value, query.get? key = some value ↔ Selects selector key value)
    (labels : Labels) :
    labels.includes query = true ↔
      ∀ part key value, Part selector part → Asks part key value → labels.get? key = some value := by
  rw [includes_iff]
  simp only [mem_entries_iff, selects]
  constructor
  · intro all part key value member asks
    exact all key value ⟨part, member, asks⟩
  · rintro all key value ⟨part, member, asks⟩
    exact all part key value member asks

/-- Exactly the grammatical selectors are read, and every other one is a bad argument. What is read
are the pairs that the parts ask for, in whatever order and however often the parts are given, and a
label set matches if it has for the key of every part the value that the part asks for. -/
theorem parseSelector_accepts (selector : String) :
    ((∃ query, parseSelector selector = .ok query) ↔ Grammatical selector) ∧
    (∀ query, parseSelector selector = .ok query →
      (∀ key value, (key, value) ∈ query.entries ↔ Selects selector key value) ∧
      (∀ other, (∀ part, Part other part ↔ Part selector part) →
        parseSelector other = .ok query) ∧
      ∀ labels : Labels, labels.includes query = true ↔
        ∀ part key value, Part selector part → Asks part key value →
          labels.get? key = some value) ∧
    (¬ Grammatical selector →
      ∃ error, parseSelector selector = .error error ∧ error.kind = .invalidArgument) := by
  refine ⟨⟨?_, Grammatical.exists_parseSelector⟩, ?_, ?_⟩
  · rintro ⟨query, read⟩
    exact (selects_of_parseSelector read).1
  · intro query read
    obtain ⟨grammatical, selects⟩ := selects_of_parseSelector read
    refine ⟨fun key value => mem_entries_iff.trans (selects key value), ?_,
      includes_iff_selects selects⟩
    intro other same
    obtain ⟨query', read'⟩ := (grammatical.congr same).exists_parseSelector
    obtain ⟨-, selects'⟩ := selects_of_parseSelector read'
    have one : query' = query := eq_of_get? fun key value => by
      rw [selects', selects, selects_congr same]
    rw [read', one]
  · intro ungrammatical
    cases read : parseSelector selector with
    | error error => exact ⟨error, rfl, selectAll_error read⟩
    | ok query => exact absurd (selects_of_parseSelector read).1 ungrammatical

/-- A selector whose parts are given in another order, and one of them twice. -/
theorem parseSelector_accepts_reordered :
    parseSelector "env:prod, tier :1" = .ok (ofList [("env", "prod"), ("tier", "1")]) ∧
      (∀ part, Part " tier :1,, tier :1,env:prod" part ↔ Part "env:prod, tier :1" part) ∧
      parseSelector " tier :1,, tier :1,env:prod" = .ok (ofList [("env", "prod"), ("tier", "1")]) ∧
      ¬ Grammatical "env:prod,env:dev" ∧
      ∃ error, parseSelector "env:prod,env:dev" = .error error ∧ error.kind = .invalidArgument := by
  have read : parseSelector "env:prod, tier :1" = .ok (ofList [("env", "prod"), ("tier", "1")]) := by
    decide
  have same : ∀ part, Part " tier :1,, tier :1,env:prod" part ↔ Part "env:prod, tier :1" part := by
    intro part
    have one : pieces ',' "env:prod, tier :1".toList = ["env:prod".toList, " tier :1".toList] := by
      decide
    have other : pieces ',' " tier :1,, tier :1,env:prod".toList =
        [" tier :1".toList, [], " tier :1".toList, "env:prod".toList] := by
      decide
    have blank : trim [] = [] := rfl
    rw [Part, Part, one, other]
    simp only [List.mem_cons, List.not_mem_nil, or_false]
    grind
  have refused : ¬ Grammatical "env:prod,env:dev" := by
    intro grammatical
    obtain ⟨query, read⟩ := (parseSelector_accepts "env:prod,env:dev").1.2 grammatical
    have clash : parseSelector "env:prod,env:dev" =
        .error (.invalid (.keySelectedTwice "env" "prod" "dev")) := by
      decide
    cases clash.symm.trans read
  exact ⟨read, same, ((parseSelector_accepts _).2.1 _ read).2.1 _ same, refused,
    (parseSelector_accepts _).2.2 refused⟩

end StatusPage.Labels
