import DeckTools.Text.Ascii
import DeckTools.Text.Utf8

/-!
# A sample PDF

The smallest body that still looks like an export: a catalogue, a page tree that
states its count, and one object for each page.
-/

namespace DeckTools
namespace Rehearsal

/-- The object of a page; the first two object numbers are taken. -/
def pageObject (index : Nat) : String :=
  Text.natText (index + 3) ++ " 0 obj << /Type /Page /Parent 2 0 R >> endobj\n"

def samplePdfText (pages : Nat) : String :=
  "%PDF-1.4\n1 0 obj << /Type /Catalog /Pages 2 0 R >> endobj\n" ++
    "2 0 obj << /Type /Pages /Count " ++ Text.natText pages ++ " >> endobj\n" ++
    String.join ((List.range pages).map pageObject) ++ "%%EOF\n"

def samplePdf (pages : Nat) : List UInt8 :=
  Text.Utf8.encode (samplePdfText pages)

end Rehearsal
end DeckTools
