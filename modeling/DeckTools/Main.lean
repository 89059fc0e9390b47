import DeckTools.CommandLine.Report
import DeckTools.Rehearsal.Services
import DeckTools.Settings.Config

/-!
# The program

The command line is carried out by the services in memory, which hold the sample
presentation; the environment and the file `.env` set the limits.
-/

namespace DeckTools
namespace Program

open CommandLine

def usageText : String :=
  String.intercalate "\n"
    ["Edit presentations from the command line",
      "",
      "Usage: decktools <COMMAND>",
      "",
      "Commands:",
      "  tools                        List all tools",
      "  schema <TOOL>                Print the schema of a tool",
      "  run <TOOL> [-p <PARAMS>]     Run a tool with JSON parameters or @file",
      "  help                         Print this message"]

def versionText : String := "decktools 0.1.0"

def variableNames : List String :=
  ["GOOGLE_OAUTH_TOKEN", "GOOGLE_TRANSLATE_API_KEY", "SLIDES_API_BASE_URL",
    "DRIVE_API_BASE_URL", "DRIVE_UPLOAD_BASE_URL", "TRANSLATE_API_BASE_URL",
    "HTTP_TIMEOUT_SECS", "EXPORT_MAX_BYTES", "SEARCH_CONTEXT_CHARS", "SLIDESMITH_LOG_JSON"]

def readFile (name : String) : IO (Except String (List UInt8)) := do
  try
    let bytes <- IO.FS.readBinFile name
    return .ok bytes.toList
  catch e => return .error e.toString

def readEnvironment : IO Environment := do
  let mut env : Environment := []
  for name in variableNames do
    match (← IO.getEnv name) with
    | some value => env := env.set name value
    | none => pure ()
  match (← readFile ".env") with
  | .ok bytes => return EnvFile.load env (Text.Utf8.decodeLossy bytes)
  | .error _ => return env

def filesOf : Command -> IO Files
  | .run _ params => do
      match params.toList with
      | '@' :: name =>
          let name := String.ofList name
          let bytes <- readFile name
          return fun other => if other == name then bytes else .error "no such file"
      | _ => return fun _ => .error "no such file"
  | _ => return fun _ => .error "no such file"

def words : JsonWords
  | some fault, _ => fault.message
  | none, _ => "the text is not JSON"

def newJob : IO Job := do
  let high <- IO.rand 0 (Nat.pow 2 64 - 1)
  let low <- IO.rand 0 (Nat.pow 2 64 - 1)
  let digits := (Nat.toDigits 16 (high * Nat.pow 2 64 + low))
  let id := String.ofList (List.replicate (32 - digits.length) '0' ++ digits)
  return { id, user := none, createdAt := 0, freshDigits := id, pageBudget := 10000 }

def perform (config : Config) (command : Command) : IO UInt32 := do
  let registry := Registry.empty.registerAll (Tool.all config.settings)
  let files <- filesOf command
  let job <- newJob
  let held := Rehearsal.hold (command.perform registry words files job)
    (Rehearsal.start Rehearsal.sampleDeck)
  match held.outcome with
  | .value report =>
      IO.print report.printed
      match report.failure with
      | some failure =>
          IO.eprintln ("Error: " ++ failure)
          return 1
      | none => return 0
  | .unfinished =>
      IO.eprintln "Error: the listing did not end"
      return 1

def run (args : List String) : IO UInt32 := do
  match Command.ofLine args with
  | .error .versionWanted =>
      IO.println versionText
      return 0
  | .error .helpWanted =>
      IO.println usageText
      return 0
  | .error _ =>
      IO.eprintln usageText
      return 2
  | .ok command =>
      let env <- readEnvironment
      match Config.read env with
      | .ok config => perform config command
      | .error e =>
          IO.eprintln ("Error: " ++ e.message)
          return 1

end Program
end DeckTools

def main (args : List String) : IO UInt32 :=
  DeckTools.Program.run args
