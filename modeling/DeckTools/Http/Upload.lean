import DeckTools.Json.Print
import DeckTools.Text.Utf8

/-!
# Upload bodies

An upload has two parts, the description of the file and its bytes.  Each part
starts after a line that holds two hyphens and the boundary; two more hyphens
follow the boundary at the end.
-/

namespace DeckTools
namespace Http

def uploadBoundary (digits : String) : String :=
  "slidesmith_" ++ digits

def uploadContentType (boundary : String) : String :=
  "multipart/related; boundary=" ++ boundary

def uploadHead (boundary : String) (metadata : Json) (mimeType : String) : String :=
  "--" ++ boundary ++ "\r\nContent-Type: application/json; charset=UTF-8\r\n\r\n" ++
    metadata.compact ++ "\r\n--" ++ boundary ++ "\r\nContent-Type: " ++ mimeType ++ "\r\n\r\n"

def uploadTail (boundary : String) : String :=
  "\r\n--" ++ boundary ++ "--\r\n"

def uploadBody (boundary : String) (metadata : Json) (mimeType : String)
    (bytes : List UInt8) : List UInt8 :=
  Text.Utf8.encode (uploadHead boundary metadata mimeType) ++ bytes ++
    Text.Utf8.encode (uploadTail boundary)

end Http
end DeckTools
