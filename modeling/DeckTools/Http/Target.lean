import DeckTools.Text.Percent
import DeckTools.Text.Occurrence

/-!
# Request targets

The target of a request is the path and the query of its address.  Dots that
step out of a folder are resolved, and characters that may not stand in an
address are written as percent signs and digits.
-/

namespace DeckTools
namespace Http

/-! ## Addresses -/

def trimSlashes (address : String) : String :=
  String.ofList (address.toList.reverse.dropWhile (fun c => c == '/')).reverse

def join (base path : String) : String :=
  trimSlashes base ++ "/" ++ String.ofList (path.toList.dropWhile (fun c => c == '/'))

/-! ## Escapes -/

def pathEscapes : List Char :=
  [' ', '"', '#', '<', '>', '?', Char.ofNat 0x60, '\x7b', '\x7d']

def queryEscapes : List Char :=
  [' ', '"', '#', '<', '>', '\'']

def escape (escapes : List Char) (cs : List Char) : List Char :=
  cs.flatMap fun c =>
    if c.toNat < 0x20 || 0x7E < c.toNat || escapes.contains c then
      (String.utf8EncodeChar c).flatMap Text.Percent.escapeByte
    else [c]

/-! ## Paths -/

def isDot (segment : List Char) : Bool :=
  [".", "%2e"].contains (String.ofList (segment.map Char.toLower))

def isDoubleDot (segment : List Char) : Bool :=
  ["..", ".%2e", "%2e.", "%2e%2e"].contains (String.ofList (segment.map Char.toLower))

/-- Resolve the dots among segments; folders entered so far come last first. -/
def resolve : List (List Char) -> List (List Char) -> List (List Char)
  | folders, [] => folders.reverse
  | folders, [last] =>
      if isDoubleDot last then ([] :: folders.tail).reverse
      else if isDot last then ([] :: folders).reverse
      else (last :: folders).reverse
  | folders, segment :: rest =>
      if isDoubleDot segment then resolve folders.tail rest
      else if isDot segment then resolve folders rest
      else resolve (segment :: folders) rest

def pathOf (cs : List Char) : List Char :=
  let afterRoot := match cs with
    | '/' :: rest => rest
    | '\\' :: rest => rest
    | cs => cs
  let segments := Text.words (fun c => c != '/' && c != '\\') afterRoot
  (resolve [] segments).flatMap (fun segment => '/' :: escape pathEscapes segment)

/-! ## Targets -/

def afterHost (address : List Char) : List Char :=
  let rest := match Text.splitOnce "://".toList address with
    | some cut => cut.2
    | none => address
  rest.dropWhile (fun c => c != '/' && c != '\\' && c != '?' && c != '#')

def target (address : String) (pairs : List (String × String)) : String :=
  let plain := address.toList.filter (fun c => c != '\t' && c != '\n' && c != '\r')
  let located := (afterHost plain).takeWhile (fun c => c != '#')
  let path := pathOf (located.takeWhile (fun c => c != '?'))
  let own := escape queryEscapes ((located.dropWhile (fun c => c != '?')).drop 1)
  let added := (Text.Percent.query pairs).toList
  let query :=
    if own.isEmpty then added else if added.isEmpty then own else own ++ '&' :: added
  String.ofList (path ++ (if query.isEmpty then [] else '?' :: query))

end Http
end DeckTools
