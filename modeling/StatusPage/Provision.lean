import StatusPage.Store.Phases
import StatusPage.Store.ImpactTypes
import StatusPage.Store.Severities

/-!
The vocabulary that a page starts with.

A seed names the phases of the first generation, impact types and severities. Provisioning adds
what is missing: the phases when there is no generation yet, and impact types and severities whose
names are not there. It stops at the first failure and keeps what it wrote before.
-/

namespace StatusPage

/-- A severity of a seed; its value may lie off the scale. -/
structure SeveritySeed where
  displayName : String
  value : Int
  deriving DecidableEq

/-- The vocabulary that a page starts with. -/
structure Seed where
  phases : List String
  impactTypes : List NewImpactType
  severities : List SeveritySeed
  deriving DecidableEq

/-- The seed with nothing in it. -/
def Seed.empty : Seed := ⟨[], [], []⟩

namespace Provision

open Store Text

/-- What provisioning was doing. -/
inductive Step where
  | readGeneration
  | createPhases
  | listImpactTypes
  | createImpactType (name : String)
  | findSeverity (name : String)
  | checkSeverity (name : String)
  | createSeverity (name : String)
  deriving DecidableEq

def Step.message : Step → String
  | .readGeneration => "failed to read current phase generation"
  | .createPhases => "failed to provision phases"
  | .listImpactTypes => "failed to list impact types"
  | .createImpactType name => "failed to provision impact type " ++ quoted name
  | .findSeverity name => "failed to look up severity " ++ quoted name
  | .checkSeverity name => "invalid severity " ++ quoted name
  | .createSeverity name => "failed to provision severity " ++ quoted name

/-- Why provisioning stopped. -/
structure Stop where
  step : Step
  fault : Fault
  deriving DecidableEq

/-- What provisioning answers and the store it leaves. -/
abbrev Result := Except Stop Unit × Store

/-- Adds the first generation if there is none. -/
def providePhases (s : Store) (names : List String) : Result :=
  if names = [] then (.ok (), s)
  else match s.currentGeneration with
    | .error fault => (.error ⟨.readGeneration, fault⟩, s)
    | .ok current =>
      if current = 0 then
        let outcome := s.createGeneration names
        (outcome.answer.map (fun _ => ()) |>.mapError (⟨.createPhases, ·⟩), outcome.store)
      else (.ok (), s)

/-- Adds the impact types whose names are not among `present`; each takes the next identifier. -/
def addImpactTypes (draw : Nat → Uuid) (present : List String) :
    Nat → Store → List NewImpactType → Result
  | _, s, [] => (.ok (), s)
  | drawn, s, input :: inputs =>
    if input.displayName ∈ present then addImpactTypes draw present drawn s inputs
    else
      let outcome := s.createImpactType (draw drawn) input
      match outcome.answer with
      | .error fault => (.error ⟨.createImpactType input.displayName, fault⟩, outcome.store)
      | .ok _ => addImpactTypes draw present (drawn + 1) outcome.store inputs

/-- Adds the impact types whose names are not in the store. -/
def provideImpactTypes (draw : Nat → Uuid) (s : Store) (inputs : List NewImpactType) : Result :=
  if inputs = [] then (.ok (), s)
  else match s.listImpactTypes with
    | .error fault => (.error ⟨.listImpactTypes, fault⟩, s)
    | .ok present => addImpactTypes draw (present.map (·.displayName)) 0 s inputs

/-- Adds the severities whose names are not in the store. -/
def provideSeverities : Store → List SeveritySeed → Result
  | s, [] => (.ok (), s)
  | s, seed :: seeds =>
    match s.getSeverity seed.displayName with
    | .error fault => (.error ⟨.findSeverity seed.displayName, fault⟩, s)
    | .ok (some _) => provideSeverities s seeds
    | .ok none =>
      match Severity.make seed.displayName seed.value with
      | .error error => (.error ⟨.checkSeverity seed.displayName, .refused error⟩, s)
      | .ok severity =>
        let outcome := s.createSeverity severity
        match outcome.answer with
        | .error fault => (.error ⟨.createSeverity seed.displayName, fault⟩, outcome.store)
        | .ok _ => provideSeverities outcome.store seeds

/-- Goes on with a second part unless the first one stopped. -/
def andThen (first : Result) (second : Store → Result) : Result :=
  match first with
  | (.error stop, s) => (.error stop, s)
  | (.ok (), s) => second s

/-- Adds what a seed names and the store lacks. -/
def run (draw : Nat → Uuid) (s : Store) (seed : Seed) : Result :=
  andThen (providePhases s seed.phases) fun s =>
    andThen (provideImpactTypes draw s seed.impactTypes) fun s =>
      provideSeverities s seed.severities

/-- The wording of a stop: what was being done, then what went wrong. -/
def Stop.message (stop : Stop) : String :=
  stop.step.message ++ " / " ++ stop.fault.message

end Provision

end StatusPage
