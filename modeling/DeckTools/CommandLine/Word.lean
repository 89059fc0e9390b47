import DeckTools.Text.Occurrence

/-!
# Words of a command line

A word with one hyphen in front is a cluster of letters, one with two hyphens an
option by name, perhaps with a value after an equals sign.  Two hyphens alone end
the options; a hyphen alone is an ordinary word.
-/

namespace DeckTools
namespace CommandLine

inductive Word where
  | endOfOptions
  | option (name : List Char) (value : Option (List Char))
  | letters (first : Char) (rest : List Char)
  | plain
  deriving DecidableEq

namespace Word

def ofChars : List Char -> Word
  | ['-', '-'] => endOfOptions
  | '-' :: '-' :: rest =>
      match Text.splitOnce ['='] rest with
      | some (name, value) => option name (some value)
      | none => option rest none
  | '-' :: first :: rest => letters first rest
  | _ => plain

end Word

end CommandLine
end DeckTools
