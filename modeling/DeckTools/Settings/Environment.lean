import DeckTools.Keyed
import DeckTools.Text.Ascii
import DeckTools.Text.Quoted
import DeckTools.Text.Utf8

/-!
# The environment

An environment gives variables their values.  Values are bytes, and only those
that are UTF-8 can be read; an empty value counts as none.
-/

namespace DeckTools

abbrev Environment : Type := List (String × List UInt8)

inductive SettingsError where
  | missing (key : String)
  | invalid (key reason : String)
  | unreadable (key : String) (bytes : List UInt8)

namespace SettingsError

def code : SettingsError -> String
  | missing _ => "MISSING_ENV_VAR"
  | invalid _ _ => "INVALID_VALUE"
  | unreadable _ _ => "PARSE_ERROR"

def message : SettingsError -> String
  | missing key => "Missing required environment variable: " ++ key
  | invalid key reason => "Invalid configuration value for " ++ key ++ ": " ++ reason
  | unreadable key bytes =>
      "Failed to parse configuration: failed to read " ++ key ++
        ": environment variable was not valid unicode: " ++ Text.quoteBytes bytes

end SettingsError

namespace Environment

def readable? (env : Environment) (key : String) : Option String :=
  (Keyed.find? key env).bind Text.Utf8.decode?

/--
The value that a name leads to, where each variable is an entry of its name, an
equals sign and its value.  A name with an equals sign in it reaches into a value
and leads to what follows the next equals sign there.
-/
def entryValue? (env : Environment) (name : List Char) : Option (List Char) :=
  env.findSome? fun (key, bytes) => do
    let value <- Text.Utf8.decode? bytes
    (name ++ ['=']).isPrefixOf? (key.toList ++ '=' :: value.toList)

def set (env : Environment) (key value : String) : Environment :=
  Keyed.insert key (Text.Utf8.encode value) env

def text? (env : Environment) (key : String) : Except SettingsError (Option String) :=
  match Keyed.find? key env with
  | none => .ok none
  | some bytes =>
      match Text.Utf8.decode? bytes with
      | none => .error (.unreadable key bytes)
      | some text => .ok (if text.isEmpty then none else some text)

inductive CountFault where
  | digit
  | size

def CountFault.message : CountFault -> String
  | digit => "invalid digit found in string"
  | size => "number too large to fit in target type"

/-- Read on, after a number, the digits of a count below `2 ^ 64`. -/
def readDigits : Nat -> List Char -> Except CountFault Nat
  | n, [] => .ok n
  | n, c :: rest =>
      if !c.isDigit then .error .digit
      else
        let next := n * 10 + (c.toNat - '0'.toNat)
        if Nat.pow 2 64 ≤ next then .error .size else readDigits next rest

def readCount : List Char -> Except CountFault Nat
  | [] => .error .digit
  | ['+'] => .error .digit
  | '+' :: digits => readDigits 0 digits
  | digits => readDigits 0 digits

def count (env : Environment) (key : String) (default : Nat) : Except SettingsError Nat := do
  match (← env.text? key) with
  | none => .ok default
  | some text =>
      match readCount text.toList with
      | .ok n => .ok n
      | .error fault => .error (.invalid key fault.message)

def flag (env : Environment) (key : String) (default : Bool) : Except SettingsError Bool := do
  match (← env.text? key) with
  | none => .ok default
  | some text =>
      let word := Text.asciiLower text
      if word == "true" || word == "1" then .ok true
      else if word == "false" || word == "0" then .ok false
      else .error (.invalid key ("must be 'true' or 'false', got '" ++ text ++ "'"))

end Environment

end DeckTools
