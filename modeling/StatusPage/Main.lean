import StatusPage.Api.Log
import StatusPage.Json.Records

/-!
The command line.

The program takes a configuration, provisions an empty store with it, and then answers a log of
requests: each line of the standard input is one entry, and each line of the standard output is the
response to it.
-/

namespace StatusPage.Main

open Json

/-- The file named on the command line, if there is one. -/
def configPath? : List String → Option String
  | "--config" :: path :: _ => some path
  | "-c" :: path :: _ => some path
  | _ => none

/-- The configuration in a file, or the default one. -/
def loadConfig (args : List String) : IO (Option Config) := do
  match configPath? args with
  | none => return some Config.default
  | some path => return (Codec.config.parse (← IO.FS.readFile path)).toOption

/-- An identifier drawn at random. -/
def drawId : IO Uuid := do
  let bytes ← IO.getRandomBytes 16
  return Uuid.ofRandom (bytes.toList.foldl (fun n b => (n <<< 8) ||| b.toBitVec.setWidth 128) 0)

/-- Identifiers drawn at random; beyond the given number they repeat the nil one. -/
def drawIds (count : Nat) : IO (Nat → Uuid) := do
  let ids ← (List.range count).mapM fun _ => drawId
  return fun n => ids.getD n default

/-- Answers the entries of a log until it ends. -/
partial def answerAll (input output : IO.FS.Stream) (s : Store) : IO Unit := do
  let line ← input.getLine
  if line.isEmpty then return
  let draw ← drawIds 1
  let (response, next) := match Codec.logEntry.parse line with
    | .ok entry => entry.replay draw s
    | .error _ => (Api.unreadableRequest, s)
  output.putStrLn (Codec.response response).render
  output.flush
  answerAll input output next

/-- Runs the program with the arguments of its command line. -/
def run (args : List String) : IO UInt32 := do
  match ← loadConfig args with
  | none =>
    (← IO.getStderr).putStrLn "the configuration cannot be read"
    return 1
  | some config =>
    let draw ← drawIds config.seed.impactTypes.length
    match Provision.run draw Store.empty config.seed with
    | (.error stop, _) =>
      (← IO.getStderr).putStrLn ("provisioning failed: " ++ stop.message)
      return 1
    | (.ok (), store) =>
      answerAll (← IO.getStdin) (← IO.getStdout) store
      return 0

end StatusPage.Main

/-- The program; its exit code is zero if the log was answered to its end. -/
def main (args : List String) : IO UInt32 :=
  StatusPage.Main.run args
