import DeckTools.CommandLine.Params
import DeckTools.CommandLine.Usage
import DeckTools.Json.Print
import DeckTools.Tool.Registry

/-!
# Carrying out commands

A command prints a text and may fail.  A tool that fails prints its error all the
same.
-/

namespace DeckTools
namespace CommandLine

structure Report where
  printed : String
  failure : Option String

namespace Report

def failed (failure : String) : Report :=
  { printed := "", failure := some failure }

def ofValue (value : Json) : Report :=
  { printed := value.indented ++ "\n", failure := none }

def ofError (tool : String) (e : ToolError) : Report :=
  { printed := (Json.object [("error", e.toJson)]).indented ++ "\n"
    failure := some (tool ++ " failed with " ++ e.kind.code) }

def padded (width : Nat) (text : String) : String :=
  text ++ String.ofList (List.replicate (width - text.length) ' ')

/-- The first sentence of a text, without the stops at its end. -/
def firstSentence (text : String) : String :=
  let sentence := match Text.splitOnce ". ".toList text.toList with
    | some cut => cut.1
    | none => text.toList
  String.ofList (sentence.reverse.dropWhile (fun c => c == '.')).reverse

def line (tool : Tool) : String :=
  padded 24 tool.name ++ " " ++ firstSentence tool.description ++ "\n"

def listing (registry : Registry) : Report :=
  { printed := String.join (registry.all.map line), failure := none }

def schema (registry : Registry) (name : String) : Report :=
  match registry.get? name with
  | some tool => ofValue tool.schema
  | none => failed ("Unknown tool: " ++ name)

def ofRun (registry : Registry) (job : Job) (tool : String) (params : Json) :
    Remote Empty Report := do
  let result <- (registry.run tool job params).caught
  match result with
  | .ok value => .done (ofValue value)
  | .error e => .done (ofError tool e)

end Report

def Command.perform (registry : Registry) (words : JsonWords) (files : Files) (job : Job) :
    Command -> Remote Empty Report
  | .tools => .done (Report.listing registry)
  | .schema tool => .done (Report.schema registry tool)
  | .run tool params =>
      match readParams words files params with
      | .ok params => Report.ofRun registry job tool params
      | .error p => .done (.failed p.message)

end CommandLine
end DeckTools
