import DeckTools.Settings.Environment
import DeckTools.Text.Alphanumeric
import DeckTools.Text.Blank

/-!
# Environment files

A file adds variables to an environment.  Each entry is a name, an equals sign
and a value.  Values may be quoted, and then go on over several lines; a dollar
sign outside single quotes stands before the name of a variable whose value is
put there.  Variables that are already set keep their values, and the first
faulty entry ends the reading.
-/

namespace DeckTools
namespace EnvFile

/-! ## Entries -/

inductive Place where
  | outside
  | blank
  | escape
  | weak
  | weakEscape
  | strong
  | strongEscape
  deriving DecidableEq

def placeAfter (c : Char) (other : Place) : Place :=
  if c == '\\' then .escape
  else if c == '"' then .weak
  else if c == '\'' then .strong
  else other

def Place.next (place : Place) (c : Char) : Place :=
  match place with
  | .blank => placeAfter c .outside
  | .outside =>
      if Text.isBlank c && c != '\n' && c != '\r' then .blank else placeAfter c .outside
  | .escape => .outside
  | .weak => if c == '\\' then .weakEscape else if c == '"' then .outside else .weak
  | .weakEscape => .weak
  | .strong => if c == '\\' then .strongEscape else if c == '\'' then .outside else .strong
  | .strongEscape => .strong

/-- How far a line goes: up to a comment, or to its end at a place. -/
inductive LineEnd where
  | comment (before : List Char)
  | place (place : Place)

def scanLine : Place -> List Char -> List Char -> LineEnd
  | place, _, [] => .place place
  | place, before, c :: rest =>
      if place == .blank && c == '#' then .comment before.reverse
      else scanLine (place.next c) (c :: before) rest

def lines : List Char -> List (List Char)
  | [] => []
  | c :: rest =>
      if c == '\n' then [c] :: lines rest
      else
        match lines rest with
        | [] => [[c]]
        | line :: others => (c :: line) :: others

def dropLineEnd (line : List Char) : List Char :=
  match line.reverse with
  | '\n' :: '\r' :: rest => rest.reverse
  | '\n' :: rest => rest.reverse
  | _ => line

/--
The entries of a list of lines, given the open entry before them and the place it
is at.  An entry that never ends is none.
-/
def entriesFrom : List Char -> Place -> List (List Char) -> List (Option (List Char))
  | _, place, [] => if place == .outside then [] else [none]
  | entry, place, line :: rest =>
      if (Text.trimStart (entry ++ line)).head? == some '#' then
        some [] :: entriesFrom [] .outside rest
      else
        match scanLine place [] line with
        | .comment before => some (entry ++ before) :: entriesFrom [] .outside rest
        | .place .outside => some (dropLineEnd (entry ++ line)) :: entriesFrom [] .outside rest
        | .place place => entriesFrom (entry ++ line) place rest

def entries (text : String) : List (Option (List Char)) :=
  let chars := match text.toList with
    | '\ufeff' :: rest => rest
    | chars => chars
  entriesFrom [] .outside (lines chars)

/-! ## Values -/

inductive Quotes where
  | none
  | weak
  | strong
  deriving DecidableEq

/-- What a character of a value is read as; a name is kept with its last character first. -/
inductive Reading where
  | plain
  | escaped
  | name (chars : List Char)
  | braced (chars : List Char)
  | finished

def escapeMeaning? (c : Char) : Option Char :=
  if ['\\', '\'', '"', '$', ' '].contains c then some c
  else if c == 'n' then some '\n'
  else none

def readValue (lookUp : List Char -> List Char) :
    Quotes -> Reading -> List Char -> Option (List Char)
  | .none, .plain, [] => some []
  | .none, .escaped, [] => some []
  | .none, .finished, [] => some []
  | .none, .name chars, [] => some (lookUp chars.reverse)
  | _, _, [] => none
  | quotes, .finished, c :: rest =>
      if c == ' ' || c == '\t' then readValue lookUp quotes .finished rest
      else if c == '#' then some []
      else none
  | quotes, .escaped, c :: rest =>
      match escapeMeaning? c with
      | some meaning => (readValue lookUp quotes .plain rest).map (meaning :: ·)
      | none => none
  | .strong, .plain, c :: rest =>
      if c == '\'' then readValue lookUp .none .plain rest
      else (readValue lookUp .strong .plain rest).map (c :: ·)
  | quotes, .name chars, c :: rest =>
      if Text.isAlphanumeric c then readValue lookUp quotes (.name (c :: chars)) rest
      else if c == '\x7b' && chars.isEmpty then readValue lookUp quotes (.braced []) rest
      else if c == '$' then
        (readValue lookUp quotes (.name []) rest).map (lookUp chars.reverse ++ ·)
      else (readValue lookUp quotes .plain rest).map (lookUp chars.reverse ++ c :: ·)
  | quotes, .braced chars, c :: rest =>
      if c == '\x7d' then
        (readValue lookUp quotes .plain rest).map (lookUp chars.reverse ++ ·)
      else readValue lookUp quotes (.braced (c :: chars)) rest
  | quotes, .plain, c :: rest =>
      if c == '$' then readValue lookUp quotes (.name []) rest
      else if c == '\\' then readValue lookUp quotes .escaped rest
      else if quotes == .weak then
        if c == '"' then readValue lookUp .none .plain rest
        else (readValue lookUp .weak .plain rest).map (c :: ·)
      else if c == '\'' then readValue lookUp .strong .plain rest
      else if c == '"' then readValue lookUp .weak .plain rest
      else if c == ' ' || c == '\t' then readValue lookUp .none .finished rest
      else (readValue lookUp .none .plain rest).map (c :: ·)

/-! ## Reading a file -/

def startsName (c : Char) : Bool :=
  c.isAlpha || c == '_'

def continuesName (c : Char) : Bool :=
  c.isAlphanum || c == '_' || c == '.'

def readName? (cs : List Char) : Option (List Char × List Char) :=
  match cs with
  | c :: _ =>
      if startsName c then
        some (cs.takeWhile continuesName, Text.trimStart (cs.dropWhile continuesName))
      else none
  | [] => none

def readKey? (cs : List Char) : Option (List Char × List Char) :=
  match readName? cs with
  | some (key, '=' :: rest) => some (key, Text.trimStart rest)
  | some (key, rest) =>
      if key == "export".toList then
        match readName? rest with
        | some (key, '=' :: rest) => some (key, Text.trimStart rest)
        | _ => none
      else none
  | none => none

structure Loading where
  environment : Environment
  given : List (String × String)

namespace Loading

def lookUp (loading : Loading) (name : List Char) : List Char :=
  match loading.environment.entryValue? name with
  | some value => value
  | none => ((Keyed.find? (String.ofList name) loading.given).getD "").toList

/-- Take a variable from the file; a variable that is set keeps its value. -/
def take (loading : Loading) (key value : String) : Loading :=
  { environment :=
      if (loading.environment.readable? key).isSome then loading.environment
      else loading.environment.set key value
    given := Keyed.insert key value loading.given }

def entry? (loading : Loading) (entry : List Char) : Option Loading :=
  let line := Text.trimStart (Text.trimEnd entry)
  if line.isEmpty || line.head? == some '#' then some loading
  else do
    let (key, rest) <- readKey? line
    let value <-
      if rest.isEmpty || rest.head? == some '#' then some []
      else readValue loading.lookUp .none .plain rest
    some (loading.take (String.ofList key) (String.ofList value))

def all : Loading -> List (Option (List Char)) -> Loading
  | loading, some entry :: rest =>
      match loading.entry? entry with
      | some loading => all loading rest
      | none => loading
  | loading, _ => loading

end Loading

def load (env : Environment) (text : String) : Environment :=
  (Loading.all { environment := env, given := [] } (entries text)).environment

end EnvFile
end DeckTools
