import DeckTools.Json.Decode
import DeckTools.Json.Read
import DeckTools.Text.Occurrence
import DeckTools.Text.Utf8

/-!
# Parameters on the command line

Parameters are a JSON object.  They stand on the command line itself, or in a
file that is named after an at sign.
-/

namespace DeckTools
namespace CommandLine

/-! ## Files -/

/-- Files by path, or the reason why a path leads to none that can be read. -/
abbrev Files : Type := String -> Except String (List UInt8)

/--
The file of a folder that a path from there leads to.  Empty segments and single
dots stay where they are, but a path that ends in one leads to a folder, and so
does the empty path; two dots and a slash in front lead out of the folder.
-/
def fileOfPath? (path : String) : Option String :=
  let segments := (Text.words (fun c => c != '/') path.toList).map String.ofList
  let idle := ["", "."]
  let leaves := segments.head? == some "" || segments.contains ".."
  let endsInFolder := (segments.getLast?.map idle.contains).getD true
  if leaves || endsInFolder then none
  else some (String.intercalate "/" (segments.filter (fun s => !idle.contains s)))

def filesIn (folder : List (String × List UInt8)) : Files :=
  fun path =>
    match (fileOfPath? path).bind (fun name => Keyed.find? name folder) with
    | some bytes => .ok bytes
    | none => .error "No such file or directory (os error 2)"

/-! ## Parameters -/

inductive ParamsProblem where
  | noFile (name reason : String)
  | noJson (fault : String)
  | noObject
  deriving DecidableEq

def ParamsProblem.message : ParamsProblem -> String
  | noFile name reason => "Failed to read params file " ++ name ++ ": " ++ reason
  | noJson fault => "Params are not valid JSON: " ++ fault
  | noObject => "Params must be a JSON object"

def paramsText (files : Files) (raw : String) : Except ParamsProblem String :=
  match raw.toList with
  | '@' :: name =>
      let name := String.ofList name
      match files name with
      | .error reason => .error (.noFile name reason)
      | .ok bytes =>
          match Text.Utf8.decode? bytes with
          | some text => .ok text
          | none => .error (.noFile name "stream did not contain valid UTF-8")
  | _ => .ok raw

def readParams (words : JsonWords) (files : Files) (raw : String) :
    Except ParamsProblem Json := do
  let text <- paramsText files raw
  match Json.parse? text with
  | none => .error (.noJson (words none text))
  | some value => if value.isObject then .ok value else .error .noObject

end CommandLine
end DeckTools
