import DeckTools.Image.Format
import DeckTools.Text.Base64
import DeckTools.Text.Blank
import DeckTools.Text.Occurrence
import DeckTools.Text.Utf8
import DeckTools.ToolError

/-!
# Image payloads

An image travels as base64, bare or behind the head of a data URL.  Blanks do
not count, wherever they stand.  The bytes must be those of a known format.
-/

namespace DeckTools

structure ImagePayload where
  bytes : List UInt8
  format : ImageFormat

namespace ImagePayload

/-- What follows the head of a data URL, or everything if there is none. -/
def body (text : List Char) : List Char :=
  match Text.splitOnce ";base64,".toList text with
  | some (head, body) => if "data:".toList.isPrefixOf head then body else text
  | none => text

def symbols (raw : String) : List Char :=
  (body (Text.trim raw).toList).filter (fun c => !Text.isBlank c)

def ofText (raw : String) : Except ToolError ImagePayload :=
  let chars := symbols raw
  if chars.isEmpty then failWith .invalidImageData "image data is empty"
  else
    match Text.Base64.decodeChars? chars with
    | none =>
        let fault := Text.Base64.fault (Text.Utf8.encode (String.ofList chars))
        failWith .invalidImageData ("image data is not valid base64: " ++ fault.message)
    | some bytes =>
        match ImageFormat.detect? bytes with
        | some format => .ok { bytes, format }
        | none =>
            failWith .invalidImageData
              "unrecognized image format (expected PNG, JPEG, GIF, WebP, or BMP)"

end ImagePayload

end DeckTools
