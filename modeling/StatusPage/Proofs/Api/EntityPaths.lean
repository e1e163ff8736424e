import Mathlib
import StatusPage.Proofs.Api.AffectedListing
import StatusPage.Proofs.Json.WrittenReading
import StatusPage.Proofs.Text.PathParts

/-!
# Paths of entities

A path names at most one entity (`subjectAt?`), and a get at it asks for this one
(`AsksFor.ofRequest`). In the other direction every entity has a path: identifiers and numbers stand
in it as they are written, and the name of a severity is percent-encoded, since a name can have a
slash or a percent sign in it (`subjectAt?_path`). A request can be sent for every entity whose path
is no longer than a target may be (`exists_asksFor`). This is every entity but severities with long
names (`Subject.path_fits`), and for a name with more characters than a target has bytes there is no
request at all (`AsksFor.length_le`).
-/

namespace StatusPage

open Http Text

namespace Api

/-! ## The entity that a path names -/

/-- The entity that a route is about, if it is about one. -/
def Route.subject? : Route → Option Subject
  | .component part => (idSegment part).toOption.map .component
  | .impactType part => (idSegment part).toOption.map .impactType
  | .severity part => (nameSegment part).toOption.map .severity
  | .incident part => (idSegment part).toOption.map .incident
  | .update part last =>
    (idSegment part).toOption.bind fun id => (orderSegment last).toOption.map (.update id)
  | _ => none

namespace Route

variable {part : String} {id : Uuid}

theorem subject?_component (key : idSegment part = .ok id) :
    (component part).subject? = some (.component id) := by
  rw [subject?, key]
  rfl

theorem subject?_impactType (key : idSegment part = .ok id) :
    (impactType part).subject? = some (.impactType id) := by
  rw [subject?, key]
  rfl

theorem subject?_severity {name : String} (key : nameSegment part = .ok name) :
    (severity part).subject? = some (.severity name) := by
  rw [subject?, key]
  rfl

theorem subject?_incident (key : idSegment part = .ok id) :
    (incident part).subject? = some (.incident id) := by
  rw [subject?, key]
  rfl

theorem subject?_update {last : String} {order : UInt32} (key : idSegment part = .ok id)
    (number : orderSegment last = .ok order) :
    (update part last).subject? = some (.update id order) := by
  rw [subject?, key, number]
  rfl

end Route

/-- The entity that a path names. -/
def subjectAt? (path : List Char) : Option Subject :=
  (Route.ofPath? path).bind Route.subject?

/-- A request asks for an entity as it is now: it is a get at a path that names the entity, and its
query has no instant. -/
structure AsksFor (r : Request) (subject : Subject) : Prop where
  method : r.method = .get
  path : subjectAt? r.target.path = some subject
  query : single "at" (parameters r.target.query) = some none

/-- The call for an entity as it is now. -/
def Subject.get : Subject → Call
  | .component id => .getComponent id none
  | .impactType id => .getImpactType id
  | .severity name => .getSeverity name
  | .incident id => .getIncident id none
  | .update id order => .getUpdate id order

theorem ok_of_toOption {ε α : Type} {x : Except ε α} {a : α} (some_read : x.toOption = some a) :
    x = .ok a := by
  cases x with
  | error error => cases some_read
  | ok b =>
    cases some_read
    rfl

theorem AsksFor.ofRequest {r : Request} {subject : Subject} (asks : AsksFor r subject) :
    Call.ofRequest r = .ok subject.get := by
  obtain ⟨method, path, query⟩ := asks
  obtain ⟨route, found, named⟩ := Option.bind_eq_some_iff.1 path
  have instant : queryInstant r = .ok none := by
    rw [queryInstant, queryValue, query]
  rw [Call.ofRequest, found]
  cases route with
  | component part =>
    obtain ⟨id, key, rfl⟩ := Option.map_eq_some_iff.1 named
    simp only [Call.atRoute, method, Method.answeredAs, ok_of_toOption key, instant, ok_bind]
    rfl
  | impactType part =>
    obtain ⟨id, key, rfl⟩ := Option.map_eq_some_iff.1 named
    simp only [Call.atRoute, method, Method.answeredAs, ok_of_toOption key, ok_bind]
    rfl
  | severity part =>
    obtain ⟨name, key, rfl⟩ := Option.map_eq_some_iff.1 named
    simp only [Call.atRoute, method, Method.answeredAs, ok_of_toOption key, ok_bind]
    rfl
  | incident part =>
    obtain ⟨id, key, rfl⟩ := Option.map_eq_some_iff.1 named
    simp only [Call.atRoute, method, Method.answeredAs, ok_of_toOption key, instant, ok_bind]
    rfl
  | update part last =>
    obtain ⟨id, key, rest⟩ := Option.bind_eq_some_iff.1 named
    obtain ⟨order, number, rfl⟩ := Option.map_eq_some_iff.1 rest
    simp only [Call.atRoute, method, Method.answeredAs, ok_of_toOption key,
      ok_of_toOption number, ok_bind]
    rfl
  | _ => cases named

end Api

namespace Api

/-! ## Keys in a path -/

theorem idSegment_text (id : Uuid) : idSegment id.text = .ok id := by
  have text : segmentText? id.text = some id.text :=
    segmentText?_of_plain fun _ member => Uuid.isPlainChar_of_mem_text member
  rw [idSegment, segment, text, Option.bind_some, Uuid.text, String.toList_ofList,
    Uuid.ofList?_toList]

theorem nameSegment_percentEncode (name : String) :
    nameSegment (String.ofList (percentEncode name.toList)) = .ok name := by
  rw [nameSegment, segment, segmentText?_percentEncode, Option.bind_some]

theorem orderSegment_natural (n : UInt32) : orderSegment (natural n.toNat) = .ok n := by
  have text : segmentText? (natural n.toNat) = some (natural n.toNat) :=
    segmentText?_of_plain fun _ member => isPlainChar_of_mem_natural member
  have number : number32? (natural n.toNat) = some n := by
    obtain ⟨c, cs, digits, digit⟩ := Json.exists_toDigits_eq_cons n.toNat
    have value := Json.ofDigits_toDigits n.toNat
    have bound : n.toNat < 4294967296 := n.toNat_lt
    rw [digits] at value
    rw [number32?, natural, String.toList_ofList, digits]
    split
    · next plus =>
      cases plus
      exact absurd digit.1 (by decide)
    · simp only [digitsNumber?, List.isEmpty_cons, Bool.false_eq_true, if_false, value,
        Option.bind_some, if_pos bound, UInt32.ofNat_toNat]
  rw [orderSegment, segment, text, Option.bind_some, number]

/-! ## The path of an entity -/

/-- The parts of the path of an entity, below the one that all paths share. -/
def Subject.parts : Subject → List String
  | .component id => ["components", id.text]
  | .impactType id => ["impact-types", id.text]
  | .severity name => ["severities", String.ofList (percentEncode name.toList)]
  | .incident id => ["incidents", id.text]
  | .update id order => ["incidents", id.text, "updates", natural order.toNat]

/-- The path of an entity. -/
def Subject.path (subject : Subject) : List Char :=
  ['/'].intercalate (("" :: "api" :: subject.parts).map String.toList)

/-- Parts without slashes, the last one not empty, are the parts of their path. -/
theorem ofPath?_intercalate {parts : List String}
    (chars : ∀ part ∈ parts, ∀ c ∈ part.toList, isPartChar c = true)
    (ended : parts.getLast? ≠ some "") :
    Route.ofPath? (['/'].intercalate (("" :: "api" :: parts).map String.toList)) =
      Route.ofSegments? parts := by
  have all : ∀ segment ∈ ("" :: "api" :: parts).map String.toList, '/' ∉ segment := by
    intro segment member
    obtain ⟨part, listed, rfl⟩ := List.mem_map.1 member
    simp only [List.mem_cons] at listed
    rcases listed with rfl | rfl | listed
    · decide
    · decide
    · exact not_mem_of_isPartChar (chars part listed)
  have texts : (("" :: "api" :: parts).map String.toList).map String.ofList =
      "" :: "api" :: parts := by
    rw [List.map_map]
    exact (List.map_congr_left fun part _ => String.ofList_toList).trans (List.map_id _)
  rw [Route.ofPath?, pieces_intercalate all (by simp), texts]
  exact if_neg ended

theorem text_ne_empty (id : Uuid) : id.text ≠ "" := by
  intro same
  have length := congrArg (fun text : String => text.toList.length) same
  rw [Uuid.text, String.toList_ofList, id.length_toList] at length
  cases length

theorem isPartChar_of_mem_text {id : Uuid} {c : Char} (member : c ∈ id.text.toList) :
    isPartChar c = true :=
  isPartChar_of_isPlainChar (Uuid.isPlainChar_of_mem_text member)

/-- The parts of the path of an entity can stand there. -/
theorem Subject.isPartChar_of_mem (subject : Subject) :
    ∀ part ∈ subject.parts, ∀ c ∈ part.toList, isPartChar c = true := by
  have under (word : String) (id : Uuid) (plain : word.toList.all isPartChar = true) :
      ∀ part ∈ [word, id.text], ∀ c ∈ part.toList, isPartChar c = true := by
    intro part member
    rcases List.mem_pair.1 member with rfl | rfl
    · exact List.all_eq_true.1 plain
    · exact fun _ => isPartChar_of_mem_text
  cases subject with
  | component id => exact under "components" id (by decide)
  | impactType id => exact under "impact-types" id (by decide)
  | severity name =>
    intro part member
    rcases List.mem_pair.1 member with rfl | rfl
    · exact List.all_eq_true.1 (by decide)
    · rw [String.toList_ofList]
      exact fun _ => isPartChar_of_mem_percentEncode
  | incident id => exact under "incidents" id (by decide)
  | update id order =>
    intro part member
    simp only [parts, List.mem_cons, List.not_mem_nil, or_false] at member
    rcases member with rfl | rfl | rfl | rfl
    · exact List.all_eq_true.1 (by decide)
    · exact fun _ => isPartChar_of_mem_text
    · exact List.all_eq_true.1 (by decide)
    · exact fun _ digit => isPartChar_of_isPlainChar (isPlainChar_of_mem_natural digit)

/-- The path of an entity has no character that no path can have. -/
theorem Subject.isPathChar_of_mem {subject : Subject} {c : Char} (member : c ∈ subject.path) :
    Target.isPathChar c = true := by
  rcases mem_intercalate member with rfl | ⟨segment, listed, there⟩
  · decide
  · obtain ⟨part, known, rfl⟩ := List.mem_map.1 listed
    simp only [List.mem_cons] at known
    rcases known with rfl | rfl | known
    · cases there
    · have plain : "api".toList.all Target.isPathChar = true := by decide
      exact List.all_eq_true.1 plain c there
    · exact (Bool.and_eq_true_iff.1 (subject.isPartChar_of_mem part known c there)).1

/-- The path of an entity names it. Only the empty name, which no severity has, stands in no
path. -/
theorem subjectAt?_path {subject : Subject} (named : subject ≠ .severity "") :
    subjectAt? subject.path = some subject := by
  have found (ended : subject.parts.getLast? ≠ some "") :
      Route.ofPath? subject.path = Route.ofSegments? subject.parts :=
    ofPath?_intercalate subject.isPartChar_of_mem ended
  have ended (id : Uuid) : some id.text ≠ some "" := fun same =>
    text_ne_empty id (Option.some.inj same)
  rw [subjectAt?]
  cases subject with
  | component id =>
    rw [found (ended id)]
    exact Route.subject?_component (idSegment_text id)
  | impactType id =>
    rw [found (ended id)]
    exact Route.subject?_impactType (idSegment_text id)
  | severity name =>
    have visible : name ≠ "" := fun same => named (congrArg Subject.severity same)
    have written : some (String.ofList (percentEncode name.toList)) ≠ some "" := by
      intro same
      have nothing := congrArg String.toList (Option.some.inj same)
      rw [String.toList_ofList] at nothing
      exact percentEncode_ne_nil visible nothing
    rw [found written]
    exact Route.subject?_severity (nameSegment_percentEncode name)
  | incident id =>
    rw [found (ended id)]
    exact Route.subject?_incident (idSegment_text id)
  | update id order =>
    have written : some (natural order.toNat) ≠ some "" := by
      intro same
      have digits := congrArg String.toList (Option.some.inj same)
      rw [natural, String.toList_ofList] at digits
      exact Nat.toDigits_ne_nil digits
    rw [found written]
    exact Route.subject?_update (idSegment_text id) (orderSegment_natural order)

/-! ## Requests for an entity -/

/-- A path without a query is the target that it is read as. -/
theorem parse?_path {path : List Char} (fits : byteLength path ≤ Target.longest)
    (rooted : path.head? = some '/') (chars : ∀ c ∈ path, Target.isPathChar c = true) :
    Target.parse? (String.ofList path) = some ⟨path, [], fits⟩ := by
  have without {sign : Char} (foreign : Target.isPathChar sign = false) :
      path.takeWhile (· ≠ sign) = path := by
    rw [List.takeWhile_eq_self_iff]
    intro c member
    have other : c ≠ sign := by
      rintro rfl
      exact absurd (chars c member) (by simp [foreign])
    exact decide_eq_true other
  have whole : Target.beforeFragment path = path := without (by decide)
  have before : Target.pathOf path = path := without (by decide)
  have after : Target.queryOf path = [] := by
    rw [Target.queryOf, List.dropWhile_eq_nil_iff.2, List.drop_nil]
    exact List.takeWhile_eq_self_iff.1 before
  have same : (⟨Target.pathOf (Target.beforeFragment path),
      Target.queryOf (Target.beforeFragment path), Target.fits_of_beforeFragment fits⟩ : Target) =
        ⟨path, [], fits⟩ := by
    simp only [whole, before, after]
  rw [Target.parse?, String.toList_ofList, Target.ofList?, dif_pos fits, if_pos rooted,
    Target.ofPath?, same]
  exact if_pos (by simpa using chars)

/-- For an entity a request can be sent, if its path is no longer than a target may be. Only the
empty name, which no severity has, stands in no path. -/
theorem exists_asksFor {subject : Subject} (named : subject ≠ .severity "")
    (fits : byteLength subject.path ≤ Target.longest) :
    ∃ get, Request.make? "GET" (String.ofList subject.path) none [] = some get ∧
      AsksFor get subject := by
  have target := parse?_path fits rfl fun _ => Subject.isPathChar_of_mem
  refine ⟨⟨.get, ⟨subject.path, [], fits⟩, none, []⟩, ?_, rfl, subjectAt?_path named, rfl⟩
  rw [Request.make?, target]
  rfl

/-- The path of an entity is short, unless it has the name of a severity in it. -/
theorem Subject.path_fits {subject : Subject} (unnamed : ∀ name, subject ≠ .severity name) :
    byteLength subject.path ≤ Target.longest := by
  have short : subject.path.length ≤ 100 := by
    have identifier (id : Uuid) : id.text.toList.length = 36 := by
      rw [Uuid.text, String.toList_ofList, id.length_toList]
    cases subject with
    | severity name => exact absurd rfl (unnamed name)
    | component id | impactType id | incident id =>
      simp [path, parts, List.intercalate, identifier]
    | update id order =>
      have digits : (natural order.toNat).toList.length ≤ 10 := by
        rw [natural, String.toList_ofList, Nat.length_toDigits_le_iff (by decide) (by decide)]
        exact order.toNat_lt.trans (by decide)
      simp [path, parts, List.intercalate, identifier]
      omega
  have bytes := byteLength_le subject.path
  rw [Target.longest]
  omega

/-- Where a path names a severity, one of its parts stands for the name. -/
theorem exists_part_of_severity {path : List Char} {name : String}
    (named : subjectAt? path = some (.severity name)) :
    ∃ part ∈ pieces '/' path, segmentText? (String.ofList part) = some name := by
  obtain ⟨route, found, about⟩ := Option.bind_eq_some_iff.1 named
  have key : ∃ part, route = .severity part ∧ nameSegment part = .ok name := by
    cases route with
    | severity part =>
      obtain ⟨same, key, own⟩ := Option.map_eq_some_iff.1 about
      cases own
      exact ⟨part, rfl, ok_of_toOption key⟩
    | update part last =>
      obtain ⟨id, -, rest⟩ := Option.bind_eq_some_iff.1 about
      obtain ⟨order, -, same⟩ := Option.map_eq_some_iff.1 rest
      cases same
    | component part | impactType part | incident part =>
      obtain ⟨id, -, same⟩ := Option.map_eq_some_iff.1 about
      cases same
    | _ => cases about
  obtain ⟨part, rfl, key⟩ := key
  have stands : segmentText? part = some name := by
    rw [nameSegment, segment, Option.bind_fun_some] at key
    split at key
    · next text shown =>
      cases key
      exact shown
    · cases key
  have listed : part ∈ (pieces '/' path).map String.ofList := by
    unfold Route.ofPath? at found
    split at found
    · next parts split =>
      split at found
      · cases found
      · rw [split]
        unfold Route.ofSegments? at found
        split at found <;> cases found
        simp
    · cases found
  obtain ⟨piece, member, rfl⟩ := List.mem_map.1 listed
  exact ⟨piece, member, stands⟩

/-- No request asks for a severity whose name has more characters than a target has bytes. -/
theorem AsksFor.length_le {r : Request} {name : String} (asks : AsksFor r (.severity name)) :
    name.toList.length ≤ Target.longest := by
  obtain ⟨part, piece, stands⟩ := exists_part_of_severity asks.path
  have shown := length_le_of_segmentText? stands
  rw [String.toList_ofList] at shown
  have own := byteLength_le_of_sublist (sublist_of_mem_pieces piece)
  have target : r.target.path.Sublist (Target.shortest r.target.path r.target.query) := by
    unfold Target.shortest
    split
    · exact List.Sublist.refl _
    · exact List.sublist_append_left _ _
  exact shown.trans (own.trans ((byteLength_le_of_sublist target).trans r.target.fits))

end Api

end StatusPage
