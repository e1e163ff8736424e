import Mathlib
import StatusPage.Proofs.Selector.Grammar

/-!
# Writing selectors

A query can be written as a selector unless its keys or values have something in them that the
grammar reads as its own: a comma, a colon in a key, white space at an end, or no key at all. What a
selector is read as never has (`expressible_of_parseSelector`), and a query without can be written
with its pairs in any order and is read back (`parseSelector_renderPairs`). A value may have colons
in it and may be empty.
-/

namespace StatusPage.Labels

open Text

/-! ## Pairs that can be written -/

/-- A pair that a part of a selector can ask for. -/
structure PairExpressible (p : String × String) : Prop where
  visible : p.1 ≠ ""
  key_trimmed : trim p.1.toList = p.1.toList
  key_comma : ',' ∉ p.1.toList
  key_colon : ':' ∉ p.1.toList
  value_trimmed : trim p.2.toList = p.2.toList
  value_comma : ',' ∉ p.2.toList

/-- A query that some selector asks for. -/
def Expressible (query : Labels) : Prop :=
  ∀ p ∈ query.entries, PairExpressible p

/-- A part without commas asks for a pair that can be written. -/
theorem Asks.pairExpressible {part : List Char} {key value : String} (asks : Asks part key value)
    (comma : ',' ∉ part) (visible : key ≠ "") : PairExpressible (key, value) := by
  obtain ⟨front, back, rfl, colon, rfl, rfl⟩ := asks
  simp only [List.mem_append, List.mem_cons, not_or] at comma
  refine ⟨visible, ?_, ?_, ?_, ?_, ?_⟩ <;> simp only [String.toList_ofList]
  · exact trim_trim front
  · exact fun member => comma.1 (mem_of_mem_trim member)
  · exact fun member => colon (mem_of_mem_trim member)
  · exact trim_trim back
  · exact fun member => comma.2.2 (mem_of_mem_trim member)

/-- Whatever a selector is read as can be written. -/
theorem expressible_of_parseSelector {selector : String} {query : Labels}
    (read : parseSelector selector = .ok query) : Expressible query := by
  obtain ⟨grammatical, selects⟩ := selects_of_parseSelector read
  rintro ⟨key, value⟩ member
  have selected := (selects key value).1 (mem_entries_iff.1 member)
  have visible := grammatical.key key value selected
  obtain ⟨part, ⟨piece, -⟩, asks⟩ := selected
  exact asks.pairExpressible (not_mem_of_mem_pieces piece) visible

/-! ## Writing pairs -/

/-- A pair as a part of a selector. -/
def pairText (p : String × String) : List Char :=
  p.1.toList ++ ':' :: p.2.toList

theorem toList_renderPairs (pairs : List (String × String)) :
    (renderPairs pairs).toList = [','].intercalate (pairs.map pairText) :=
  String.toList_ofList

namespace PairExpressible

variable {p : String × String}

theorem not_mem_pairText (plain : PairExpressible p) : ',' ∉ pairText p := by
  simp [pairText, plain.key_comma, plain.value_comma]

theorem trim_pairText (plain : PairExpressible p) : trim (pairText p) = pairText p := by
  rw [pairText, trim_append_visible (by decide), trimStart_of_trim plain.key_trimmed,
    trimEnd_of_trim plain.value_trimmed]

/-- A written pair is read as the pair, up to the first colon as the key. -/
theorem pairOf_pairText (plain : PairExpressible p) : pairOf (pairText p) = .ok (p.1, p.2) := by
  rw [← plain.trim_pairText, pairOf_trim_ok_iff]
  refine ⟨⟨p.1.toList, p.2.toList, rfl, plain.key_colon, ?_, ?_⟩, plain.visible⟩
  · rw [plain.key_trimmed, String.ofList_toList]
  · rw [plain.value_trimmed, String.ofList_toList]

end PairExpressible

/-- The parts of a written selector are its pairs. -/
theorem segments_renderPairs {pairs : List (String × String)}
    (plain : ∀ p ∈ pairs, PairExpressible p) :
    segments (renderPairs pairs).toList = pairs.map pairText := by
  cases pairs with
  | nil => rfl
  | cons first rest =>
    have apart : ∀ text ∈ (first :: rest).map pairText, ',' ∉ text := by
      rw [List.forall_mem_map]
      exact fun p member => (plain p member).not_mem_pairText
    have trimmed : ((first :: rest).map pairText).map trim = (first :: rest).map pairText := by
      rw [List.map_map]
      exact List.map_congr_left fun p member => (plain p member).trim_pairText
    have kept : ∀ text ∈ (first :: rest).map pairText, decide (text ≠ []) = true := by
      rw [List.forall_mem_map]
      simp [pairText]
    rw [segments, toList_renderPairs, pieces_intercalate apart (List.cons_ne_nil _ _), trimmed,
      List.filter_eq_self.2 kept]

/-- A query that can be written is read back, in whatever order its pairs are written. -/
theorem parseSelector_renderPairs {query : Labels} (expressible : Expressible query)
    {pairs : List (String × String)} (same : pairs.Perm query.entries) :
    parseSelector (renderPairs pairs) = .ok query := by
  have plain : ∀ p ∈ pairs, PairExpressible p := fun p member => expressible p (same.mem_iff.1 member)
  have asked : ∀ key value, Asked ∅ (pairs.map pairText) key value ↔
      query.get? key = some value := by
    intro key value
    rw [← mem_entries_iff, ← same.mem_iff]
    simp only [Asked, get?_empty, reduceCtorEq, false_or, List.mem_map]
    constructor
    · rintro ⟨text, ⟨p, member, rfl⟩, pair⟩
      cases (plain p member).pairOf_pairText.symm.trans pair
      exact member
    · intro member
      exact ⟨_, ⟨(key, value), member, rfl⟩, (plain _ member).pairOf_pairText⟩
  obtain ⟨result, read⟩ : ∃ result, selectAll ∅ (pairs.map pairText) = .ok result := by
    apply exists_selectAll
    · rw [List.forall_mem_map]
      exact fun p member => ⟨p.1, p.2, (plain p member).pairOf_pairText⟩
    · intro key first second one other
      rw [asked] at one other
      exact Option.some.inj (one.symm.trans other)
  have whole : result = query :=
    eq_of_get? fun key value => ((get?_selectAll read).2 key value).trans (asked key value)
  rw [parseSelector, segments_renderPairs plain, read, whole]

/-! ## Queries that can be written -/

/-- A query is asked for by some selector exactly if it can be written. It is then read back from
its pairs in any order, and so is whatever a selector was read as. -/
theorem selector_expresses_iff (query : Labels) :
    ((∃ selector, parseSelector selector = .ok query) ↔ Expressible query) ∧
    (Expressible query → ∀ pairs : List (String × String), pairs.Perm query.entries →
      parseSelector (renderPairs pairs) = .ok query) ∧
    ∀ selector, parseSelector selector = .ok query →
      ∀ pairs : List (String × String), pairs.Perm query.entries →
        parseSelector (renderPairs pairs) = .ok query := by
  refine ⟨⟨?_, ?_⟩, ?_, ?_⟩
  · rintro ⟨selector, read⟩
    exact expressible_of_parseSelector read
  · intro expressible
    exact ⟨renderPairs query.entries, parseSelector_renderPairs expressible (List.Perm.refl _)⟩
  · intro expressible pairs same
    exact parseSelector_renderPairs expressible same
  · intro selector read pairs same
    exact parseSelector_renderPairs (expressible_of_parseSelector read) same

/-- A query with an empty value and a value with colons, written from the last pair to the first. -/
theorem selector_expresses_reversed :
    parseSelector " url : https://example.com, note:" =
        .ok (ofList [("note", ""), ("url", "https://example.com")]) ∧
      Expressible (ofList [("note", ""), ("url", "https://example.com")]) ∧
      [("url", "https://example.com"), ("note", "")].Perm
        (ofList [("note", ""), ("url", "https://example.com")]).entries ∧
      parseSelector (renderPairs [("url", "https://example.com"), ("note", "")]) =
        .ok (ofList [("note", ""), ("url", "https://example.com")]) := by
  have read : parseSelector " url : https://example.com, note:" =
      .ok (ofList [("note", ""), ("url", "https://example.com")]) := by
    decide
  have reversed : [("url", "https://example.com"), ("note", "")].Perm
      (ofList [("note", ""), ("url", "https://example.com")]).entries := by
    decide
  have expressible := (selector_expresses_iff _).1.1 ⟨_, read⟩
  exact ⟨read, expressible, reversed, (selector_expresses_iff _).2.1 expressible _ reversed⟩

end StatusPage.Labels
