/-!
# ASCII letters and identifiers

Remote services spell their machine-readable words in ASCII, so these maps and
classes leave every other character alone.
-/

namespace DeckTools
namespace Text

def asciiLower (s : String) : String :=
  String.ofList (s.toList.map Char.toLower)

def asciiUpper (s : String) : String :=
  String.ofList (s.toList.map Char.toUpper)

/-- The alphabet of file IDs: ASCII letters, digits, `-` and `_`. -/
def isIdChar (c : Char) : Bool :=
  c.isAlphanum || c == '-' || c == '_'

def digitsToNat (ds : List Char) : Nat :=
  ds.foldl (fun n d => n * 10 + (d.toNat - '0'.toNat)) 0

/-- The number that digits after an optional plus sign spell. -/
def unsigned? (cs : List Char) : Option Nat :=
  let ds := match cs with
    | '+' :: rest => rest
    | cs => cs
  if ds.isEmpty || !ds.all Char.isDigit then none else some (digitsToNat ds)

def natText (n : Nat) : String :=
  String.ofList (Nat.toDigits 10 n)

def intText (n : Int) : String :=
  match n with
  | .ofNat k => natText k
  | .negSucc k => "-" ++ natText (k + 1)

/-! ## Decimal digits -/

theorem isDigit_of_mem_natText {n : Nat} {c : Char} (h : c ∈ (natText n).toList) :
    c.isDigit = true := by
  unfold natText at h
  rw [String.toList_ofList] at h
  exact Nat.isDigit_of_mem_toDigits (by decide) (by decide) h

theorem natText_injective {m n : Nat} (h : natText m = natText n) : m = n := by
  have hdigits : Nat.toDigits 10 m = Nat.toDigits 10 n := String.ofList_injective h
  have hread := congrArg (fun digits => Nat.ofDigitChars 10 digits 0) hdigits
  simpa using hread

theorem natText_append_cons_inj {m n : Nat} {mark : Char} {left right : List Char}
    (hmark : mark.isDigit = false)
    (h : (natText m).toList ++ mark :: left = (natText n).toList ++ mark :: right) :
    m = n ∧ left = right := by
  have hstop : ¬ mark.isDigit = true := by
    rw [hmark]
    exact Bool.false_ne_true
  have hcut (k : Nat) (rest : List Char) :
      ((natText k).toList ++ mark :: rest).takeWhile Char.isDigit = (natText k).toList := by
    rw [List.takeWhile_append_of_pos (fun c hc => isDigit_of_mem_natText hc),
      List.takeWhile_cons_of_neg hstop, List.append_nil]
  have hdigits : (natText m).toList = (natText n).toList := by
    rw [← hcut m left, h, hcut n right]
  rw [hdigits] at h
  have htail := List.append_cancel_left h
  exact ⟨natText_injective (String.toList_inj.mp hdigits), (List.cons.inj htail).2⟩

end Text
end DeckTools
