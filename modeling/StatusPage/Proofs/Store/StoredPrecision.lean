import Mathlib
import StatusPage.Store.Components
import StatusPage.Proofs.Accepted
import StatusPage.Proofs.Instant.StoredReading

/-!
# Windows in whole microseconds

The store keeps the bounds of a window in whole microseconds and asks about an instant in whole
microseconds too. `Instant.isGreatest_truncate` says what is kept of an instant: the last one in
whole microseconds that is not after it. Its order with any other such instant stays the same, so
`truncation_commutes_with_window` finds the stored window in order when the given one was, and
finds an instant and what is kept of it on the same side of both bounds, the closed and the open.
-/

namespace StatusPage

/-! ## Whole microseconds -/

namespace Instant

/-- Nothing of the instant is finer than a microsecond. -/
def WholeMicroseconds (t : Instant) : Prop :=
  t.nano % 1000 = 0

theorem wholeMicroseconds_truncate (t : Instant) : t.truncate.WholeMicroseconds := by
  show (t.nano - t.nano % 1000) % 1000 = 0
  omega

theorem truncate_le (t : Instant) : t.truncate ≤ t :=
  le_iff.2 (.inr ⟨rfl, Nat.sub_le ..⟩)

/-- An instant in whole microseconds is not after what is kept of a later one. -/
theorem WholeMicroseconds.le_truncate {u t : Instant} (whole : u.WholeMicroseconds)
    (order : u ≤ t) : u ≤ t.truncate := by
  simp only [WholeMicroseconds, le_iff, truncate] at whole order ⊢
  omega

/-- What is kept of an instant is the last one in whole microseconds that is not after it. -/
theorem isGreatest_truncate (t : Instant) :
    IsGreatest {u | u.WholeMicroseconds ∧ u ≤ t} t.truncate := by
  constructor
  · exact ⟨t.wholeMicroseconds_truncate, t.truncate_le⟩
  · rintro u ⟨whole, order⟩
    exact whole.le_truncate order

end Instant

/-! ## Windows -/

/-- A window without what the store does not keep of its bounds. -/
def Window.truncate (w : Window) : Window :=
  ⟨w.beganAt.truncate, w.endedAt.map Instant.truncate⟩

/-- A window in order is in order as it is kept. -/
theorem Window.make_truncate {began : Instant} {ended : Option Instant} {w : Window}
    (made : Window.make began ended = .ok w) :
    Window.make began.truncate (ended.map Instant.truncate) = .ok w.truncate := by
  obtain ⟨inOrder, rfl⟩ := Window.make_ok_iff.1 made
  refine Window.make_ok_iff.2 ⟨?_, rfl⟩
  rintro e kept
  obtain ⟨e, given, rfl⟩ := Option.mem_map.1 kept
  exact Instant.truncate_le_truncate (inOrder e given)

theorem Window.contains_iff {w : Window} {t : Instant} :
    w.contains t ↔ w.beganAt ≤ t ∧ ∀ ended ∈ w.endedAt, t < ended := by
  rcases w with ⟨began, _ | ended⟩ <;> simp [contains]

/-- A window that is kept contains what is kept of an instant exactly if it contains the instant.
The beginning is inside and the end is not, so the two bounds need the order in either form. -/
theorem Window.contains_truncate_iff (w : Window) (t : Instant) :
    w.truncate.contains t.truncate ↔ w.truncate.contains t := by
  rw [contains_iff, contains_iff]
  apply and_congr
  · exact Instant.truncate_le_truncate_iff
  · simp only [truncate, Option.forall_mem_map, Instant.truncate_lt_truncate_iff]

theorem Window.isActive_truncate (w : Window) (asked : Option Instant) :
    w.truncate.isActive (asked.map Instant.truncate) = w.truncate.isActive asked := by
  cases asked with
  | none => rfl
  | some t => exact Bool.eq_iff_iff.2 (w.contains_truncate_iff t)

/-- A row of the store is asked about the text of an instant, and this is the text of what is kept
of it. -/
theorem Store.IncidentRow.activeAt_truncate (row : Store.IncidentRow) (asked : Option Instant) :
    row.activeAt (asked.map Instant.truncate) = row.activeAt asked := by
  cases asked with
  | none => rfl
  | some t => simp only [Option.map_some, Store.IncidentRow.activeAt, Instant.storedText_truncate]

/-- What is kept of an instant is the last one in whole microseconds that is not after it, which is
kept as it is, and instants are kept in their order. So an end that is not before the beginning is
kept so and a window that was accepted is accepted as it is kept. An instant is in the window that
is kept exactly if what is kept of the instant is, and whether an incident is active, for the window
and for the row of the store, does not change when the instant asked about is truncated. -/
theorem truncation_commutes_with_window (began : Instant) (ended : Option Instant) (t : Instant) :
    (IsGreatest {u | u.WholeMicroseconds ∧ u ≤ t} t.truncate ∧
      t.truncate.truncate = t.truncate ∧ t.truncate ≤ t ∧
      ∀ later : Instant, t ≤ later → t.truncate ≤ later.truncate) ∧
    (∀ e ∈ ended, began ≤ e → began.truncate ≤ e.truncate) ∧
    (∀ w, Window.make began ended = .ok w →
      Window.make began.truncate (ended.map Instant.truncate) = .ok w.truncate) ∧
    ((⟨began.truncate, ended.map Instant.truncate⟩ : Window).contains t.truncate ↔
      (⟨began.truncate, ended.map Instant.truncate⟩ : Window).contains t) ∧
    ∀ asked : Option Instant,
      (⟨began.truncate, ended.map Instant.truncate⟩ : Window).isActive
          (asked.map Instant.truncate) =
        (⟨began.truncate, ended.map Instant.truncate⟩ : Window).isActive asked ∧
      ∀ row : Store.IncidentRow,
        row.activeAt (asked.map Instant.truncate) = row.activeAt asked := by
  refine ⟨⟨t.isGreatest_truncate, t.truncate_truncate, t.truncate_le, ?_⟩, ?_, ?_, ?_, ?_⟩
  · intro later order
    exact Instant.truncate_le_truncate order
  · intro e _ order
    exact Instant.truncate_le_truncate order
  · intro w made
    exact Window.make_truncate made
  · exact Window.contains_truncate_iff ⟨began, ended⟩ t
  · intro asked
    exact ⟨Window.isActive_truncate ⟨began, ended⟩ asked, fun row => row.activeAt_truncate asked⟩

/-- The last nanosecond of the leap second that ended the year 2016. -/
def endOfLeapSecond : Instant :=
  (Instant.ofSecond? 1483228799 1999999999).getD Instant.epoch

/-- An instant in the microsecond before the end of that leap second. -/
def nearEndOfLeapSecond : Instant :=
  (Instant.ofSecond? 1483228799 1999999001).getD Instant.epoch

/-- A window that begins and ends at the end of a leap second is kept as one that is empty, and one
that has no end contains an instant of the microsecond in which it began, before or after. -/
theorem truncation_commutes_with_window_in_leapSecond :
    nearEndOfLeapSecond < endOfLeapSecond ∧
      Window.make endOfLeapSecond.truncate (some endOfLeapSecond.truncate) =
        .ok ⟨endOfLeapSecond.truncate, some endOfLeapSecond.truncate⟩ ∧
      (⟨endOfLeapSecond.truncate, none⟩ : Window).contains nearEndOfLeapSecond = true := by
  obtain ⟨-, -, closed, -⟩ :=
    truncation_commutes_with_window endOfLeapSecond (some endOfLeapSecond) nearEndOfLeapSecond
  obtain ⟨-, -, -, isIn, -⟩ :=
    truncation_commutes_with_window endOfLeapSecond none nearEndOfLeapSecond
  refine ⟨by decide, closed _ rfl, isIn.1 ?_⟩
  decide

end StatusPage
