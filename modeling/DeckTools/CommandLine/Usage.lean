import DeckTools.CommandLine.Word

/-!
# Usage

A command line names one of a few commands.  Some commands take the name of a
tool, and one takes parameters as an option.  A value that is given to an option
is settled when the next word needs it to be, or at the end of the line.
-/

namespace DeckTools
namespace CommandLine

inductive Command where
  | tools
  | schema (tool : String)
  | run (tool params : String)
  deriving DecidableEq

inductive UsageProblem where
  | helpWanted
  | helpNeeded
  | versionWanted
  | unknownCommand
  | unknownArgument
  | missingArgument
  | missingValue
  | repeatedOption
  | unwantedValue
  deriving DecidableEq

inductive CommandKind where
  | tools
  | schema
  | run
  deriving DecidableEq

namespace CommandKind

def ofName? (name : String) : Option CommandKind :=
  if name == "tools" then some tools
  else if name == "schema" then some schema
  else if name == "run" then some run
  else none

def takesTool : CommandKind -> Bool
  | tools => false
  | schema => true
  | run => true

def takesParams : CommandKind -> Bool
  | run => true
  | _ => false

end CommandKind

/-- The option for parameters, which may still wait for its value. -/
inductive PendingOption where
  | none
  | waiting
  | given (value : String)

structure Reading where
  tool : Option String
  params : Option String
  pending : PendingOption
  optionsEnded : Bool

namespace Reading

def start : Reading :=
  { tool := none, params := none, pending := .none, optionsEnded := false }

def assign (reading : Reading) (value : String) : Except UsageProblem Reading :=
  if reading.params.isSome then .error .repeatedOption
  else .ok { reading with params := some value }

def settle (reading : Reading) : Except UsageProblem Reading :=
  match reading.pending with
  | .none => .ok reading
  | .waiting => .error .missingValue
  | .given value => { reading with pending := .none }.assign value

def problem (reading : Reading) (p : UsageProblem) : Except UsageProblem Reading := do
  let _ <- reading.settle
  .error p

/--
Take a word that is no option.  A word that has no place fails the line whether
or not a pending option could be settled.
-/
def takePlain (kind : CommandKind) (reading : Reading) (word : String) :
    Except UsageProblem Reading :=
  if kind.takesTool && reading.tool.isNone then do
    let reading <- reading.settle
    .ok { reading with tool := some word }
  else .error .unknownArgument

def takeParams (reading : Reading) (value : Option (List Char)) :
    Except UsageProblem Reading := do
  let reading <- reading.settle
  match value with
  | some value => reading.assign (String.ofList value)
  | none => .ok { reading with pending := .waiting }

/-- The value attached to a letter; an equals sign before it does not count. -/
def attached? : List Char -> Option (List Char)
  | [] => none
  | '=' :: value => some value
  | value => some value

def takeOption (kind : CommandKind) (reading : Reading) (name : List Char)
    (value : Option (List Char)) : Except UsageProblem Reading :=
  if name == "help".toList then
    if value.isSome then .error .unwantedValue else reading.problem .helpWanted
  else if kind.takesParams && name == "params".toList then reading.takeParams value
  else .error .unknownArgument

def takeLetter (kind : CommandKind) (reading : Reading) (letter : Char)
    (rest : List Char) : Except UsageProblem Reading :=
  if letter == 'h' then reading.problem .helpWanted
  else if kind.takesParams && letter == 'p' then reading.takeParams (attached? rest)
  else .error .unknownArgument

def take (kind : CommandKind) (reading : Reading) (word : String) :
    Except UsageProblem Reading :=
  if reading.optionsEnded then reading.takePlain kind word
  else
    match Word.ofChars word.toList with
    | .endOfOptions => .ok { reading with optionsEnded := true }
    | .option name value => reading.takeOption kind name value
    | .letters letter rest => reading.takeLetter kind letter rest
    | .plain =>
        match reading.pending with
        | .waiting => .ok { reading with pending := .given word }
        | _ => reading.takePlain kind word

def defaultParams : String := "\x7b\x7d"

def finish (kind : CommandKind) (reading : Reading) : Except UsageProblem Command := do
  let reading <- reading.settle
  match kind, reading.tool with
  | .tools, _ => .ok .tools
  | .schema, some tool => .ok (.schema tool)
  | .run, some tool => .ok (.run tool (reading.params.getD defaultParams))
  | _, none => .error .missingArgument

end Reading

namespace Command

def ofWords (kind : CommandKind) (words : List String) : Except UsageProblem Command := do
  let reading <- words.foldlM (Reading.take kind) Reading.start
  reading.finish kind

def isName (name : String) : Bool :=
  name == "help" || (CommandKind.ofName? name).isSome

def help (words : List String) : UsageProblem :=
  match words with
  | [] => .helpWanted
  | [name] => if isName name then .helpWanted else .unknownCommand
  | _ => .unknownCommand

/-- A word that stands where no option may be and does not start a command. -/
def misplaced (word : String) : UsageProblem :=
  if isName word then .unknownArgument else .unknownCommand

def ofLine : List String -> Except UsageProblem Command
  | [] => .error .helpNeeded
  | word :: rest =>
      match Word.ofChars word.toList with
      | .endOfOptions =>
          match rest with
          | [] => .error .helpNeeded
          | next :: _ => .error (misplaced next)
      | .option name value =>
          if name == "help".toList then
            .error (if value.isSome then .unwantedValue else .helpWanted)
          else if name == "version".toList then
            .error (if value.isSome then .unwantedValue else .versionWanted)
          else .error .unknownArgument
      | .letters letter _ =>
          .error
            (if letter == 'h' then .helpWanted
              else if letter == 'V' then .versionWanted else .unknownArgument)
      | .plain =>
          match CommandKind.ofName? word with
          | some kind => ofWords kind rest
          | none => .error (if word == "help" then help rest else .unknownCommand)

end Command

end CommandLine
end DeckTools
