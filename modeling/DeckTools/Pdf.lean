import DeckTools.Text.Blank
import DeckTools.Text.Occurrence
import DeckTools.Text.Utf8

/-!
# Counting the pages of a PDF

A page object says `/Type /Page`, with any blanks between the two names.  The
scan goes from left to right and passes over each marker it meets; a marker
counts unless a letter or digit follows, as in the name of the page tree.
-/

namespace DeckTools
namespace Pdf

def blankBytes : List (List UInt8) :=
  Text.blanks.map String.utf8EncodeChar

def dropBlank? (bytes : List UInt8) : Option (List UInt8) :=
  blankBytes.findSome? (fun blank => Text.dropStart? blank bytes)

def dropBlanks : Nat -> List UInt8 -> List UInt8
  | 0, bytes => bytes
  | count + 1, bytes =>
      match dropBlank? bytes with
      | some rest => dropBlanks count rest
      | none => bytes

def typeName : List UInt8 := Text.Utf8.encode "/Type"

def pageName : List UInt8 := Text.Utf8.encode "/Page"

/-- What follows a page marker at the front of a byte list, if there is one with
at most so many blanks between its names. -/
def afterMarker? (blanks : Nat) (bytes : List UInt8) : Option (List UInt8) :=
  match Text.dropStart? typeName bytes with
  | some rest => Text.dropStart? pageName (dropBlanks blanks rest)
  | none => none

def endsName : List UInt8 -> Bool
  | [] => true
  | b :: _ => !(Char.ofNat b.toNat).isAlphanum

/-- Add the markers of a byte list to a count, looking at so many positions.  There
are never more bytes left than positions, so the positions also bound the
blanks inside a marker. -/
def countMarkers : Nat -> Nat -> List UInt8 -> Nat
  | 0, count, _ => count
  | _ + 1, count, [] => count
  | positions + 1, count, b :: rest =>
      match afterMarker? positions (b :: rest) with
      | some after => countMarkers positions (if endsName after then count + 1 else count) after
      | none => countMarkers positions count rest

def countPages (bytes : List UInt8) : Nat :=
  countMarkers bytes.length 0 bytes

end Pdf
end DeckTools
