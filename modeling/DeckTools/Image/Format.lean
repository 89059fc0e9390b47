/-!
# Image formats

The format of an image shows in its first bytes.  A list that is shorter than
the signature of a format is not of that format.
-/

namespace DeckTools

inductive ImageFormat where
  | png
  | jpeg
  | gif
  | webp
  | bmp
  deriving DecidableEq

namespace ImageFormat

def mimeType : ImageFormat -> String
  | png => "image/png"
  | jpeg => "image/jpeg"
  | gif => "image/gif"
  | webp => "image/webp"
  | bmp => "image/bmp"

def extension : ImageFormat -> String
  | png => "png"
  | jpeg => "jpg"
  | gif => "gif"
  | webp => "webp"
  | bmp => "bmp"

def detect? : List UInt8 -> Option ImageFormat
  | 0x89 :: 0x50 :: 0x4E :: 0x47 :: 0x0D :: 0x0A :: 0x1A :: 0x0A :: _ => some png
  | 0xFF :: 0xD8 :: 0xFF :: _ => some jpeg
  | 0x47 :: 0x49 :: 0x46 :: 0x38 :: 0x37 :: 0x61 :: _ => some gif
  | 0x47 :: 0x49 :: 0x46 :: 0x38 :: 0x39 :: 0x61 :: _ => some gif
  | 0x52 :: 0x49 :: 0x46 :: 0x46 :: _ :: _ :: _ :: _ :: 0x57 :: 0x45 :: 0x42 :: 0x50 :: _ =>
      some webp
  | 0x42 :: 0x4D :: _ :: _ :: _ :: _ :: _ => some bmp
  | _ => none

end ImageFormat

end DeckTools
