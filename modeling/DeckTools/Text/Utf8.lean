/-!
# UTF-8

Encoding is one block of bytes per character.  Decoding reads a byte list as
characters and faults, where a fault is a longest run of bytes that begins a
character but does not complete one.  Strict decoding refuses any fault; lossy
decoding writes one replacement character for each.
-/

namespace DeckTools
namespace Text
namespace Utf8

def encode (s : String) : List UInt8 :=
  s.toList.flatMap String.utf8EncodeChar

def isContinuation (b : UInt8) : Bool :=
  0x80 ≤ b && b ≤ 0xBF

/-- The bounds of the second byte and the length of a character, by lead byte. -/
def lead? (b : UInt8) : Option (UInt8 × UInt8 × Nat) :=
  if 0xC2 ≤ b && b ≤ 0xDF then some (0x80, 0xBF, 2)
  else if b == 0xE0 then some (0xA0, 0xBF, 3)
  else if b == 0xED then some (0x80, 0x9F, 3)
  else if 0xE1 ≤ b && b ≤ 0xEF then some (0x80, 0xBF, 3)
  else if b == 0xF0 then some (0x90, 0xBF, 4)
  else if 0xF1 ≤ b && b ≤ 0xF3 then some (0x80, 0xBF, 4)
  else if b == 0xF4 then some (0x80, 0x8F, 4)
  else none

private def low6 (b : UInt8) : Nat := b.toNat % 64

inductive Piece where
  | char (c : Char)
  | fault (bytes : List UInt8)

def pieces : List UInt8 -> List Piece
  | [] => []
  | a :: rest =>
      if a < 0x80 then .char (Char.ofNat a.toNat) :: pieces rest
      else
        match lead? a with
        | none => .fault [a] :: pieces rest
        | some (low, high, size) =>
            match rest with
            | [] => [.fault [a]]
            | b :: rest2 =>
                if !(low ≤ b && b ≤ high) then .fault [a] :: pieces (b :: rest2)
                else if size == 2 then
                  .char (Char.ofNat ((a.toNat % 32) * 64 + low6 b)) :: pieces rest2
                else
                  match rest2 with
                  | [] => [.fault [a, b]]
                  | c :: rest3 =>
                      if !isContinuation c then .fault [a, b] :: pieces (c :: rest3)
                      else if size == 3 then
                        .char (Char.ofNat ((a.toNat % 16) * 4096 + low6 b * 64 + low6 c)) ::
                          pieces rest3
                      else
                        match rest3 with
                        | [] => [.fault [a, b, c]]
                        | d :: rest4 =>
                            if !isContinuation d then .fault [a, b, c] :: pieces (d :: rest4)
                            else
                              .char (Char.ofNat ((a.toNat % 8) * 262144 + low6 b * 4096 +
                                low6 c * 64 + low6 d)) :: pieces rest4

def Piece.char? : Piece -> Option Char
  | .char c => some c
  | .fault _ => none

def decode? (bytes : List UInt8) : Option String :=
  ((pieces bytes).mapM Piece.char?).map String.ofList

/-- The text of a byte list, with one replacement character for each fault. -/
def decodeLossy (bytes : List UInt8) : String :=
  String.ofList ((pieces bytes).map (fun piece => piece.char?.getD '\ufffd'))

end Utf8
end Text
end DeckTools
