import StatusPage.Provision

/-!
The configuration of a server.
-/

namespace StatusPage

/-- Where a server listens, where it keeps its store and what it starts with. -/
structure Config where
  host : String
  port : UInt16
  storePath : String
  seed : Seed
  deriving DecidableEq

/-- The configuration when nothing is said. -/
def Config.default : Config := ⟨"127.0.0.1", 8080, "beacon.db", Seed.empty⟩

end StatusPage
