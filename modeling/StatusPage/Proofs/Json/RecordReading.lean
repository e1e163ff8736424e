import Mathlib
import StatusPage.Json.Records
import StatusPage.Proofs.Accepted
import StatusPage.Proofs.Instant.CallerText
import StatusPage.Proofs.Json.WrittenReading
import StatusPage.Proofs.LabelSets
import StatusPage.Proofs.UuidText

/-!
# Reading written records

A record is read from any object that has its fields, whatever else the object has and in whatever
order: `Fields.Gives` says that the members of a written object give values for the fields, and
`Fields.read_object` that these values are read then. So one record can be read from what another
one was written as. The simple codecs read what they wrote, and write no number that could not be
read (`Codec.Small`).
-/

namespace StatusPage.Json

/-! ## Fields of an object -/

namespace Fields

variable {α β : Type} {fields : Fields β} {members : List (String × Json)} {b : β}

/-- The members of a written object give these values for the fields of a record. -/
def Gives (members : List (String × Json)) : {β : Type} → Fields β → β → Prop
  | _, .nil, _ => True
  | _, .cons field rest, (first, others) =>
    (∃ j, members.lookup field.name = some j ∧ field.codec.read j.reading = .ok first) ∧
      Gives members rest others

theorem lookup_of_mem (distinct : (members.map (·.1)).Nodup) {m : String × Json}
    (member : m ∈ members) : members.lookup m.1 = some m.2 := by
  induction members with
  | nil => cases member
  | cons first rest ih =>
    obtain ⟨key, value⟩ := first
    rw [List.map_cons, List.nodup_cons] at distinct
    rw [List.lookup_cons]
    rcases List.mem_cons.1 member with rfl | later
    · rw [beq_self_eq_true]
    · have differ : m.1 ≠ key := fun same => distinct.1 (List.mem_map.2 ⟨m, later, same⟩)
      rw [beq_false_of_ne differ]
      exact ih distinct.2 later

theorem check?_isSome_iff {name : String} :
    (fields.check? name).isSome = true ↔ name ∈ fields.names := by
  induction fields with
  | nil => simp [check?, names]
  | cons field rest ih =>
    rw [check?, names, List.mem_cons]
    split
    · next same => simp [same]
    · next other => rw [ih, or_iff_right (Ne.symm other)]

/-- A member that gives a value passes the test of its field. -/
theorem Gives.check (gives : Gives members fields b) {name : String} {j : Json}
    (found : members.lookup name = some j) {check : Reading → Except Fault Unit}
    (asked : fields.check? name = some check) : check j.reading = .ok () := by
  induction fields with
  | nil => cases asked
  | cons field rest ih =>
    obtain ⟨⟨own, own_found, reads⟩, others⟩ := gives
    rw [check?] at asked
    split at asked
    · next same =>
      subst same
      cases found.symm.trans own_found
      cases asked
      exact congrArg (Except.map fun _ => ()) reads
    · exact ih others asked

/-- Members with different names are all passed, and those that are fields are kept. -/
theorem scan_eq (distinct : (members.map (·.1)).Nodup)
    (passed : ∀ m ∈ members, ∀ check, fields.check? m.1 = some check →
      check m.2.reading = .ok ()) {seen : List String} (fresh : ∀ m ∈ members, m.1 ∉ seen) :
    fields.scan seen (readingMembers members) =
      .ok ((members.filter fun m => (fields.check? m.1).isSome).map fun m =>
        (m.1, m.2.reading)) := by
  induction members generalizing seen with
  | nil => rfl
  | cons m rest ih =>
    obtain ⟨name, value⟩ := m
    obtain ⟨first_passed, others_passed⟩ := List.forall_mem_cons.1 passed
    obtain ⟨first_fresh, others_fresh⟩ := List.forall_mem_cons.1 fresh
    rw [List.map_cons, List.nodup_cons] at distinct
    rw [readingMembers, scan]
    cases asked : fields.check? name with
    | none =>
      dsimp only
      rw [if_pos (sound_reading value), ih distinct.2 others_passed others_fresh,
        List.filter_cons_of_neg (by simp [asked])]
    | some check =>
      have later : ∀ m ∈ rest, m.1 ∉ name :: seen := by
        intro m member again
        rcases List.mem_cons.1 again with same | before
        · exact distinct.1 (List.mem_map.2 ⟨m, member, same⟩)
        · exact others_fresh m member before
      have others := ih distinct.2 others_passed later
      have first := first_passed check asked
      dsimp only at first first_fresh ⊢
      rw [if_neg first_fresh, first, others, List.filter_cons_of_pos (by simp [asked])]
      rfl

/-- Under a name that is kept, the member of that name is found. -/
theorem lookup_kept (keep : String → Bool) (name : String) :
    ((members.filter fun m => keep m.1).map fun m => (m.1, m.2.reading)).lookup name =
      if keep name then (members.lookup name).map reading else none := by
  induction members with
  | nil => simp
  | cons m rest ih =>
    obtain ⟨key, value⟩ := m
    rw [List.lookup_cons, List.filter_cons]
    by_cases here : name = key
    · subst here
      by_cases kept : keep name = true
      · simp [kept]
      · simp [kept, ih]
    · by_cases kept : keep key = true
      · simp [kept, ih, List.lookup_cons, beq_false_of_ne here]
      · simp [kept, ih, beq_false_of_ne here]

theorem Gives.pick (gives : Gives members fields b) {found : List (String × Reading)}
    (all : ∀ name ∈ fields.names, found.lookup name = (members.lookup name).map reading) :
    fields.pick found = .ok b := by
  induction fields with
  | nil => rfl
  | cons field rest ih =>
    obtain ⟨first, others⟩ := b
    obtain ⟨⟨own, own_found, reads⟩, others_given⟩ := gives
    obtain ⟨first_found, others_found⟩ := List.forall_mem_cons.1 all
    rw [own_found, Option.map_some] at first_found
    rw [Fields.pick, first_found]
    dsimp only
    rw [reads, ok_bind, ih others_given others_found]
    rfl

/-- A record is read from every object with different names that gives its fields. -/
theorem read_object (distinct : (members.map (·.1)).Nodup) (gives : Gives members fields b)
    (out : α → β) (into : β → α) :
    (fields.codec out into).read (Json.object members).reading = .ok (into b) := by
  have passed : ∀ m ∈ members, ∀ check, fields.check? m.1 = some check →
      check m.2.reading = .ok () := by
    intro m member check asked
    exact gives.check (lookup_of_mem distinct member) asked
  have scanned : fields.scan [] (readingMembers members) = _ :=
    scan_eq distinct passed fun _ _ => List.not_mem_nil
  change (fields.scan [] (readingMembers members) >>= fun found =>
    fields.pick found >>= fun values => .ok (into values)) = _
  rw [scanned, ok_bind, gives.pick, ok_bind]
  intro name field
  rw [lookup_kept fun name => (fields.check? name).isSome, if_pos (check?_isSome_iff.2 field)]

end Fields

/-! ## Simple values -/

namespace Codec

/-- A value is read from one that is read, if it is accepted. -/
theorem read_refine {α β : Type} {c : Codec α} {out : β → α} {into? : α → Option β} {r : Reading}
    {a : α} {b : β} (read : c.read r = .ok a) (accepted : into? a = some b) :
    (c.refine out into?).read r = .ok b := by
  rw [refine]
  dsimp only
  rw [read, ok_bind, accepted]

/-- Only an accepted value is read. -/
theorem exists_of_read_refine {α β : Type} {c : Codec α} {out : β → α} {into? : α → Option β}
    {r : Reading} {b : β} (read : (c.refine out into?).read r = .ok b) :
    ∃ a, c.read r = .ok a ∧ into? a = some b := by
  obtain ⟨a, own, accepted⟩ := bind_ok_iff.1 read
  split at accepted
  · next same =>
    cases accepted
    exact ⟨a, own, same⟩
  · cases accepted

theorem read_uuid (id : Uuid) : uuid.read (uuid.write id).reading = .ok id := by
  refine read_refine (a := id.text) rfl ?_
  rw [Uuid.text, String.toList_ofList, Uuid.ofList?_toList]

/-- An instant is read as the second that is shown. -/
theorem read_instant (t : Instant) : instant.read (instant.write t).reading = .ok t.settle :=
  read_refine (a := t.text) rfl t.parse?_text

theorem read_uint8 (n : UInt8) : uint8.read (uint8.write n).reading = .ok n := by
  have bound : (0 : Int) ≤ n.toNat ∧ (n.toNat : Int) < 256 := by
    have := n.toNat_lt
    omega
  refine read_refine (a := (n.toNat : Int)) rfl ?_
  rw [if_pos bound, Int.toNat_natCast, UInt8.ofNat_toNat]

theorem read_uint32 (n : UInt32) : uint32.read (uint32.write n).reading = .ok n := by
  have bound : (0 : Int) ≤ n.toNat ∧ (n.toNat : Int) < 4294967296 := by
    have := n.toNat_lt
    omega
  refine read_refine (a := (n.toNat : Int)) rfl ?_
  rw [if_pos bound, Int.toNat_natCast, UInt32.ofNat_toNat]

/-- An integer of 64 bits is read from one of 8 bits. -/
theorem read_int64 (n : UInt8) : int64.read (uint8.write n).reading = .ok (n.toNat : Int) := by
  have bound : (-9223372036854775808 : Int) ≤ n.toNat ∧ (n.toNat : Int) ≤ 9223372036854775807 := by
    have := n.toNat_lt
    omega
  exact read_refine (a := (n.toNat : Int)) rfl (if_pos bound)

theorem read_labels (l : Labels) : labels.read (labels.write l).reading = .ok l := by
  have pairs (entries : List (String × String)) :
      readPairs (readingMembers (entries.map fun p => (p.1, .string p.2))) = .ok entries := by
    induction entries with
    | nil => rfl
    | cons p rest ih =>
      rw [List.map_cons, readingMembers, readPairs, ih]
      rfl
  simp only [labels, reading, pairs, Except.map, Labels.ofList_entries]

/-- A list is read if each of its elements is. -/
theorem read_list {α β : Type} {c : Codec α} {d : Codec β} {items : List α} {f : α → β}
    (each : ∀ a ∈ items, d.read (c.write a).reading = .ok (f a)) :
    (list d).read ((list c).write items).reading = .ok (items.map f) := by
  have all : readAll d (readingItems (items.map c.write)) = .ok (items.map f) := by
    induction items with
    | nil => rfl
    | cons a rest ih =>
      obtain ⟨first, others⟩ := List.forall_mem_cons.1 each
      rw [List.map_cons, readingItems, readAll, first, ok_bind, ih others]
      rfl
  exact all

/-- A value that may be absent is read from one that is there. -/
theorem read_nullable {α : Type} {c : Codec α} {r : Reading} {a : α} (given : r ≠ .null)
    (read : c.read r = .ok a) : c.nullable.read r = .ok (some a) := by
  cases r with
  | null => exact absurd rfl given
  | _ =>
    rw [nullable]
    dsimp only
    rw [read]
    rfl

/-! ## Numbers that can be read -/

/-- No integer that is written lies beyond 64 bits. -/
def Small {α : Type} (c : Codec α) : Prop := ∀ a, (c.write a).InRange

theorem small_string : string.Small := fun _ => trivial

theorem small_uuid : uuid.Small := fun _ => trivial

theorem small_instant : instant.Small := fun _ => trivial

theorem small_uint8 : uint8.Small := by
  intro n
  have := n.toNat_lt
  simp only [uint8, refine, int, InRange, Int.natAbs_natCast]
  omega

theorem small_uint32 : uint32.Small := by
  intro n
  have := n.toNat_lt
  simp only [uint32, refine, int, InRange, Int.natAbs_natCast]
  omega

theorem small_labels : labels.Small := by
  intro l
  have pairs (entries : List (String × String)) :
      MembersInRange (entries.map fun p => (p.1, .string p.2)) := by
    induction entries with
    | nil => trivial
    | cons p rest ih => exact ⟨trivial, ih⟩
  exact pairs l.entries

theorem Small.list {α : Type} {c : Codec α} (small : c.Small) : c.list.Small := by
  intro items
  have all : ItemsInRange (items.map c.write) := by
    induction items with
    | nil => trivial
    | cons a rest ih => exact ⟨small a, ih⟩
  exact all

theorem Small.nullable {α : Type} {c : Codec α} (small : c.Small) : c.nullable.Small
  | none => trivial
  | some a => small a

end Codec

/-- No integer that is written for a field lies beyond 64 bits. -/
def Fields.Small : {β : Type} → Fields β → Prop
  | _, .nil => True
  | _, .cons field rest => field.codec.Small ∧ rest.Small

theorem Fields.Small.write {β : Type} {fields : Fields β} (small : fields.Small) (b : β) :
    MembersInRange (fields.write b) := by
  induction fields with
  | nil => trivial
  | cons field rest ih => exact ⟨small.1 b.1, ih small.2 b.2⟩

theorem Fields.Small.codec {α β : Type} {fields : Fields β} (small : fields.Small) (out : α → β)
    (into : β → α) : (fields.codec out into).Small :=
  fun a => small.write (out a)

end StatusPage.Json
