import DeckTools.Json.Print
import DeckTools.Json.Read
import DeckTools.Proofs.Json.Canonical
import DeckTools.Proofs.Json.Numeral
import Mathlib.Data.List.Forall2

/-!
# Values read back from their text

The text of a value is cut into its tokens wherever it stands before something that does not
go on with a word, and the tokens are put together to the value again.  Only numbers are not
sure to stay what they are, since a double is read off its digits in two rounding steps.
-/

namespace DeckTools
namespace Json

/-! ## Cutting a text into tokens -/

/-- Characters before which a word ends. -/
def Ends (rest : List Char) : Prop :=
  forall c, rest.head? = some c -> Token.isWordChar c = false

/-- Characters that are cut into the given tokens, whatever stands before and after them. -/
def Scans (cs : List Char) (tokens : List Token) : Prop :=
  forall (found : List Token) (rest : List Char), Ends rest ->
    Token.collect? .between found (cs ++ rest) =
      Token.collect? .between (tokens.reverse ++ found) rest

theorem ends_cons {c : Char} {rest : List Char} (h : Token.isWordChar c = false) :
    Ends (c :: rest) := by
  intro first hfirst
  cases hfirst
  exact h

namespace Scans

theorem nil : Scans [] [] := fun _ _ _ => rfl

/-- What follows the first part has to let its last word end. -/
theorem append {front back : List Char} {first second : List Token} (hfront : Scans front first)
    (hback : Scans back second) (hends : forall rest, Ends rest -> Ends (back ++ rest)) :
    Scans (front ++ back) (first ++ second) := by
  intro found rest hrest
  rw [List.append_assoc, hfront found _ (hends rest hrest), hback _ rest hrest,
    List.reverse_append, List.append_assoc]

/-- A mark ends a word, so whatever stands before it is cut on its own. -/
theorem append_mark {front back : List Char} {first second : List Token} {mark : Char}
    (hfront : Scans front first) (hback : Scans (mark :: back) second)
    (hmark : Token.isWordChar mark = false) :
    Scans (front ++ mark :: back) (first ++ second) :=
  hfront.append hback fun _ _ => ends_cons hmark

theorem cons_mark (mark : Char) {back : List Char} {second : List Token} {token : Token}
    (hmark : forall found, Token.start? mark found = some (.between, token :: found))
    (hback : Scans back second) :
    Scans (mark :: back) (token :: second) := by
  intro found rest hrest
  have hstep : Token.collect? .between found (mark :: (back ++ rest)) =
      Token.collect? .between (token :: found) (back ++ rest) := by
    rw [Token.collect?, Token.step?, hmark]
  rw [List.cons_append, hstep, hback _ rest hrest, List.reverse_cons, List.append_assoc,
    List.singleton_append]

/-! ## Words -/

theorem collect?_word {word soFar : List Char} {found : List Token} {rest : List Char}
    (hword : word.all Token.isWordChar = true) :
    Token.collect? (.word soFar) found (word ++ rest) =
      Token.collect? (.word (word.reverse ++ soFar)) found rest := by
  induction word generalizing soFar with
  | nil => rfl
  | cons c word ih =>
      rw [List.all_cons, Bool.and_eq_true] at hword
      rw [List.cons_append, Token.collect?, Token.step?, if_pos hword.1]
      simp only
      rw [ih hword.2, List.reverse_cons, List.append_assoc, List.singleton_append]

theorem collect?_word_ends {soFar : List Char} {token : Token} {found : List Token}
    {rest : List Char} (htoken : Token.ofWord? soFar.reverse = some token) (hrest : Ends rest) :
    Token.collect? (.word soFar) found rest =
      Token.collect? .between (token :: found) rest := by
  cases rest with
  | nil => rw [Token.collect?, Token.collect?, htoken, Option.map_some]
  | cons c rest =>
      have hc := hrest c rfl
      rw [Token.collect?, Token.collect?, Token.step?, Token.step?, hc,
        if_neg Bool.false_ne_true, htoken, Option.bind_some]

theorem start?_of_isWordChar {c : Char} (h : Token.isWordChar c = true) (found : List Token) :
    Token.start? c found = some (.word [c], found) := by
  have hspace : Token.isSpace c = false := by
    rw [← Bool.not_eq_true]
    intro hspace
    simp only [Token.isSpace, Bool.or_eq_true, beq_iff_eq] at hspace
    rcases hspace with ((rfl | rfl) | rfl) | rfl <;> cases h
  have hquote : (c == '"') = false := by
    rw [beq_eq_false_iff_ne]
    rintro rfl
    cases h
  rw [Token.start?, hspace, hquote, h]
  rfl

theorem word {cs : List Char} {token : Token} (hne : cs ≠ [])
    (hword : cs.all Token.isWordChar = true) (htoken : Token.ofWord? cs = some token) :
    Scans cs [token] := by
  intro found rest hrest
  cases cs with
  | nil => exact absurd rfl hne
  | cons c cs =>
      rw [List.all_cons, Bool.and_eq_true] at hword
      rw [List.cons_append, Token.collect?, Token.step?, start?_of_isWordChar hword.1]
      simp only
      rw [collect?_word hword.2, collect?_word_ends _ hrest]
      · rfl
      · simpa using htoken

end Scans

/-! ## Texts -/

namespace Token

theorem hexValue?_digitChar : forall {d : Nat}, d < 16 -> hexValue? d.digitChar = some d := by
  decide

theorem spell?_of_forall {codes : List Nat} (after : List Char)
    (h : forall code, code ∈ codes -> isHighHalf code = false ∧ isLowHalf code = false) :
    spell? after codes = some ((codes.map Char.ofNat).reverse ++ after) := by
  induction codes generalizing after with
  | nil => rfl
  | cons code rest ih =>
      rcases h code List.mem_cons_self with ⟨hhigh, hlow⟩
      have hrest := ih (Char.ofNat code :: after)
        (fun other hother => h other (List.mem_cons_of_mem _ hother))
      cases rest with
      | nil => simp [spell?, hhigh, hlow]
      | cons before rest =>
          rw [spell?, hlow, hhigh]
          simp only [Bool.false_and, Bool.or_self, Bool.false_eq_true, if_false, hrest]
          simp

theorem ofCodes_toNat (cs : List Char) :
    ofCodes (cs.map Char.toNat).reverse = .text (some (String.ofList cs)) := by
  have hvalid : forall code, code ∈ (cs.map Char.toNat).reverse ->
      isHighHalf code = false ∧ isLowHalf code = false := by
    intro code hcode
    rcases List.mem_map.mp (List.mem_reverse.mp hcode) with ⟨c, _, rfl⟩
    have hc : c.toNat.isValidChar := c.valid
    simp only [isHighHalf, isLowHalf, Bool.and_eq_false_imp, decide_eq_true_eq,
      decide_eq_false_iff_not]
    unfold Nat.isValidChar at hc
    omega
  have hspell : (cs.map Char.toNat).map Char.ofNat = cs := by
    rw [List.map_map]
    exact (List.map_congr_left fun c _ => Char.ofNat_toNat c).trans (List.map_id cs)
  rw [ofCodes, spell?_of_forall [] hvalid, List.append_nil, List.map_reverse, List.reverse_reverse,
    hspell]
  rfl

theorem controlEscape_eq {c : Char} (h : c.toNat < 0x20) :
    controlEscape c =
      ['\\', 'u', '0', '0', (c.toNat / 16).digitChar, (c.toNat % 16).digitChar] := by
  have hall : forall n, n < 0x20 ->
      ['\\', 'u'] ++ List.replicate (4 - (Nat.toDigits 16 n).length) '0' ++ Nat.toDigits 16 n =
        ['\\', 'u', '0', '0', (n / 16).digitChar, (n % 16).digitChar] := by
    decide
  exact hall c.toNat h

theorem collect?_controlEscape {c : Char} (h : c.toNat < 0x20) (codes : List Nat)
    (found : List Token) (rest : List Char) :
    collect? (.text codes) found (controlEscape c ++ rest) =
      collect? (.text (c.toNat :: codes)) found rest := by
  have hhigh := hexValue?_digitChar (show c.toNat / 16 < 16 by omega)
  have hlow := hexValue?_digitChar (show c.toNat % 16 < 16 by omega)
  have hzero : hexValue? '0' = some 0 := rfl
  have hcode : c.toNat / 16 * 16 + c.toNat % 16 = c.toNat := Nat.div_add_mod' _ _
  simp [controlEscape_eq h, collect?, step?, hzero, hhigh, hlow, hcode]

/-- What is written for a character in a text stands for its code. -/
theorem collect?_escapeChar (c : Char) (codes : List Nat) (found : List Token)
    (rest : List Char) :
    collect? (.text codes) found (escapeChar c ++ rest) =
      collect? (.text (c.toNat :: codes)) found rest := by
  by_cases hshort : c ∈ ['"', '\\', '\x08', '\x0c', '\n', '\r', '\t']
  · simp only [List.mem_cons, List.not_mem_nil, or_false] at hshort
    rcases hshort with rfl | rfl | rfl | rfl | rfl | rfl | rfl <;> rfl
  · simp only [List.mem_cons, List.not_mem_nil, or_false, not_or] at hshort
    have hescape : escapeChar c = if c.toNat < 0x20 then controlEscape c else [c] := by
      simp [escapeChar, hshort]
    rw [hescape]
    split
    case isTrue hcontrol => exact collect?_controlEscape hcontrol codes found rest
    case isFalse hplain => simp [collect?, step?, hshort, hplain]

theorem collect?_escapeChars (cs : List Char) (codes : List Nat) (found : List Token)
    (rest : List Char) :
    collect? (.text codes) found (cs.flatMap escapeChar ++ rest) =
      collect? (.text ((cs.map Char.toNat).reverse ++ codes)) found rest := by
  induction cs generalizing codes with
  | nil => rfl
  | cons c cs ih =>
      rw [List.flatMap_cons, List.append_assoc, collect?_escapeChar, ih, List.map_cons,
        List.reverse_cons, List.append_assoc, List.singleton_append]

end Token

theorem Scans.textLiteral (s : String) : Scans (textLiteral s).toList [.text (some s)] := by
  intro found rest _
  have hspelled : (Json.textLiteral s).toList ++ rest =
      '"' :: (s.toList.flatMap escapeChar ++ '"' :: rest) := by
    simp [Json.textLiteral]
  have hopen : forall cs, Token.collect? .between found ('"' :: cs) =
      Token.collect? (.text []) found cs := fun _ => rfl
  have hclose : forall codes, Token.collect? (.text codes) found ('"' :: rest) =
      Token.collect? .between (Token.ofCodes codes :: found) rest := fun _ => rfl
  rw [hspelled, hopen, Token.collect?_escapeChars, hclose, List.append_nil, Token.ofCodes_toNat,
    String.ofList_toList]
  rfl

/-! ## What a value is read as -/

/-- The value of a bare word. -/
def ofWord (cs : List Char) : Json :=
  match Token.ofWord? cs with
  | some (.scalar value) => value
  | _ => .unreadable

mutual

/-- The value that the text of a value is read as. -/
def reread : Json -> Json
  | .arr items => .arr (rereadItems items)
  | .obj members => .obj (rereadMembers members)
  | .str s => .str s
  | value => ofWord (scalarText value).toList

def rereadItems : List Json -> List Json
  | [] => []
  | item :: rest => reread item :: rereadItems rest

def rereadMembers : List (String × Json) -> List (String × Json)
  | [] => []
  | (key, value) :: rest => (key, reread value) :: rereadMembers rest

end

mutual

/-- The tokens in the text of a value. -/
def tokens : Json -> List Token
  | .arr items => .openArray :: (List.intercalate [.comma] (tokensOfItems items) ++ [.closeArray])
  | .obj members =>
      .openObject :: (List.intercalate [.comma] (tokensOfMembers members) ++ [.closeObject])
  | .str s => [.text (some s)]
  | value => [.scalar (ofWord (scalarText value).toList)]

def tokensOfItems : List Json -> List (List Token)
  | [] => []
  | item :: rest => tokens item :: tokensOfItems rest

def tokensOfMembers : List (String × Json) -> List (List Token)
  | [] => []
  | (key, value) :: rest => (.text (some key) :: .colon :: tokens value) :: tokensOfMembers rest

end

/-! ## The words of scalars -/

/-- A word that has a value, if only one without a reading. -/
structure IsWord (cs : List Char) : Prop where
  nonempty : cs ≠ []
  chars : cs.all Token.isWordChar = true
  ofWord? : Token.ofWord? cs = some (.scalar (ofWord cs))

theorem IsWord.of_value {cs : List Char} {value : Json} (hne : cs ≠ [])
    (hchars : cs.all Token.isWordChar = true)
    (hvalue : Token.ofWord? cs = some (.scalar value)) : IsWord cs where
  nonempty := hne
  chars := hchars
  ofWord? := by rw [ofWord, hvalue]

theorem IsWord.chars_of_wellFormed {n : Numeral} (h : n.WellFormed) : IsWord n.chars :=
  .of_value (Numeral.chars_ne_nil h) (Numeral.all_isWordChar_chars h) (Numeral.ofWord?_chars h)

def Numeral.ofInt (n : Int) : Numeral where
  negative := n < 0
  whole := Nat.toDigits 10 n.natAbs
  fraction := none
  exponent := none

theorem Numeral.wellFormed_ofInt (n : Int) : (ofInt n).WellFormed where
  whole := Text.all_isDigit_toDigits _
  nonempty := Nat.toDigits_ne_nil
  leading := by
    intro h
    by_cases hzero : n.natAbs = 0
    · rw [ofInt, hzero]
      rfl
    · exact absurd h (Text.head?_toDigits_ne_zero hzero)
  fraction := by simp [ofInt]
  exponent := by simp [ofInt]

theorem Numeral.toList_intText (n : Int) : (Text.intText n).toList = (ofInt n).chars := by
  have hunsigned : forall k : Nat, (Text.natText k).toList = (ofInt k).unsignedChars := by
    intro k
    simp [Text.natText, ofInt, unsignedChars, fractionChars, exponentChars]
  cases n with
  | ofNat k => exact hunsigned k
  | negSucc k =>
      have hnegative : (ofInt (Int.negSucc k)).negative = true :=
        decide_eq_true (Int.negSucc_lt_zero k)
      rw [Text.intText, String.toList_append, hunsigned, chars, hnegative]
      rfl

theorem isWord_jsonText (x : Float) : IsWord (Decimal.jsonText x).toList := by
  cases hvalue : Decimal.Value.ofFloat x with
  | finite negative significand exponent =>
      rw [Decimal.exists_numeral hvalue]
      exact .chars_of_wellFormed (Decimal.wellFormed_numeral _ _)
  | _ =>
      have htext : Decimal.jsonText x = "null" := by rw [Decimal.jsonText, hvalue]
      rw [htext]
      exact .of_value (List.cons_ne_nil _ _) rfl rfl

theorem isWord_intText (n : Int) : IsWord (Text.intText n).toList := by
  rw [Numeral.toList_intText]
  exact .chars_of_wellFormed (Numeral.wellFormed_ofInt n)

theorem IsWord.scans {cs : List Char} (h : IsWord cs) : Scans cs [.scalar (ofWord cs)] :=
  .word h.nonempty h.chars h.ofWord?

/-! ## The tokens of a text -/

theorem Scans.intercalate {pieces : List (List Char)} {tokens : List (List Token)}
    (h : List.Forall₂ Scans pieces tokens) :
    Scans (List.intercalate [','] pieces) (List.intercalate [.comma] tokens) := by
  induction h with
  | nil => exact .nil
  | cons hfirst hrest ih =>
      cases hrest with
      | nil => simpa using hfirst
      | cons hsecond hrest =>
          rw [List.intercalate_cons_cons, List.intercalate_cons_cons, List.append_assoc,
            List.append_assoc, List.singleton_append, List.singleton_append]
          exact hfirst.append_mark (.cons_mark ',' (fun _ => rfl) ih) rfl

/-- Pieces between brackets, with commas between them. -/
theorem Scans.enclosed (opening closing : Char) {first last : Token}
    {pieces : List (List Char)} {tokens : List (List Token)}
    (hopen : forall found, Token.start? opening found = some (.between, first :: found))
    (hclose : forall found, Token.start? closing found = some (.between, last :: found))
    (hmark : Token.isWordChar closing = false) (h : List.Forall₂ Scans pieces tokens) :
    Scans (opening :: (List.intercalate [','] pieces ++ [closing]))
      (first :: (List.intercalate [.comma] tokens ++ [last])) :=
  .cons_mark opening hopen (.append_mark (.intercalate h) (.cons_mark closing hclose .nil) hmark)

mutual

theorem scans_compact : forall value : Json, Scans value.compact.toList value.tokens
  | .arr items => by
      have hitems := scans_compactItems items
      rw [compact, tokens]
      simpa using .enclosed '[' ']' (fun _ => rfl) (fun _ => rfl) rfl hitems
  | .obj members => by
      have hmembers := scans_compactMembers members
      rw [compact, tokens]
      simpa using .enclosed '\x7b' '\x7d' (fun _ => rfl) (fun _ => rfl) rfl hmembers
  | .str s => .textLiteral s
  | .null => IsWord.scans (.of_value (List.cons_ne_nil _ _) rfl rfl)
  | .bool true => IsWord.scans (.of_value (List.cons_ne_nil _ _) rfl rfl)
  | .bool false => IsWord.scans (.of_value (List.cons_ne_nil _ _) rfl rfl)
  | .int n => (isWord_intText n).scans
  | .float x => (isWord_jsonText x).scans
  | .unreadable => IsWord.scans (.of_value (List.cons_ne_nil _ _) rfl rfl)

theorem scans_compactItems : forall items : List Json,
    List.Forall₂ Scans ((compactItems items).map String.toList) (tokensOfItems items)
  | [] => .nil
  | item :: rest => .cons (scans_compact item) (scans_compactItems rest)

theorem scans_compactMembers : forall members : List (String × Json),
    List.Forall₂ Scans ((compactMembers members).map String.toList) (tokensOfMembers members)
  | [] => .nil
  | (key, value) :: rest => by
      refine .cons ?_ (scans_compactMembers rest)
      have hvalue := Scans.cons_mark ':' (fun _ => rfl) (scans_compact value)
      simpa using (Scans.textLiteral key).append_mark hvalue rfl

end

/-! ## Putting tokens together -/

/-- Go on with tokens from a state of reading. -/
def run? (progress : Progress) (tokens : List Token) : Option Progress :=
  tokens.foldlM Progress.step? progress

/-- A value that stands within the limit is put together from its tokens. -/
def Builds (tokens : List Token) (value : Json) (depth : Nat) : Prop :=
  forall (outer : List Unclosed) (rest : List Token), outer.length + depth ≤ nestingLimit ->
    run? (.atValue outer) (tokens ++ rest) = run? (.after value outer) rest

theorem close_of_lt {value : Json} {outer : List Unclosed} (h : outer.length < nestingLimit) :
    Progress.close value outer = .after value outer := by
  have hdrop : outer.drop (nestingLimit - 1) = [] :=
    List.drop_eq_nil_of_le (by unfold nestingLimit at h ⊢; omega)
  rw [Progress.close, hdrop]
  rfl

/-- The first item of an array starts as any other does. -/
theorem Builds.atFirstItem {tokens : List Token} {value : Json} {depth : Nat}
    (h : Builds tokens value depth) {outer : List Unclosed}
    (hdepth : outer.length + 1 + depth ≤ nestingLimit) (rest : List Token) :
    run? (.atFirstItem outer) (tokens ++ rest) = run? (.after value (.array [] :: outer)) rest := by
  have hbuilds := h (.array [] :: outer)
  cases tokens with
  | nil => cases hbuilds [] hdepth
  | cons token more =>
      cases token with
      | closeArray => cases hbuilds [] hdepth
      | _ => exact hbuilds rest hdepth

/-- A member whose key was read, up to what follows its value. -/
theorem Builds.member {tokens : List Token} {value : Json} {depth : Nat}
    (h : Builds tokens value depth) {outer : List Unclosed}
    (hdepth : outer.length + 1 + depth ≤ nestingLimit)
    (read : List (Option String × Json)) (key : Option String) (rest : List Token) :
    run? (.atColon read key outer) (.colon :: (tokens ++ rest)) =
      run? (.after value (.object read key :: outer)) rest :=
  h (.object read key :: outer) rest hdepth

theorem objectOf_reverse (members : List (String × Json)) :
    Progress.objectOf (members.map (fun m => (some m.1, m.2))).reverse = .obj members := by
  have hkeys : (members.map (fun m => (some m.1, m.2))).mapM
      (fun m => m.1.map (fun key => (key, m.2))) = some members := by
    induction members with
    | nil => rfl
    | cons member rest ih => simp [ih]
  rw [Progress.objectOf, List.reverse_reverse, hkeys]

/-- Pieces that were joined, as the first one and what follows it. -/
theorem intercalate_cons_eq_flatMap {α : Type} (mark : α) (first : List α)
    (pieces : List (List α)) :
    List.intercalate [mark] (first :: pieces) = first ++ pieces.flatMap (mark :: ·) := by
  induction pieces generalizing first with
  | nil => simp
  | cons second pieces ih =>
      rw [List.intercalate_cons_cons, ih, List.flatMap_cons, List.append_assoc]
      rfl

mutual

/-- The tokens of a value are put together to what the value is read as. -/
theorem builds_tokens : forall value : Json, Builds value.tokens value.reread value.depth
  | .arr [] => by
      intro outer rest hdepth
      have hclose : Progress.close (.arr []) outer = .after (.arr []) outer :=
        close_of_lt (by rw [depth] at hdepth; omega)
      exact congrArg (run? · rest) hclose
  | .arr (item :: items) => by
      intro outer rest hdepth
      rw [depth] at hdepth
      have hitem : outer.length + 1 + item.depth ≤ nestingLimit := by
        rw [depthOfItems] at hdepth; omega
      rw [tokens, tokensOfItems, intercalate_cons_eq_flatMap]
      simp only [List.cons_append, List.append_assoc]
      calc
        _ = run? (.atFirstItem outer) (item.tokens ++
              ((tokensOfItems items).flatMap (.comma :: ·) ++ .closeArray :: rest)) := by rfl
        _ = _ := by
          rw [(builds_tokens item).atFirstItem hitem,
            run?_items item items [] outer rest (by omega), close_of_lt (by omega)]
          rfl
  | .obj [] => by
      intro outer rest hdepth
      have hclose : Progress.close (.obj []) outer = .after (.obj []) outer :=
        close_of_lt (by rw [depth] at hdepth; omega)
      exact congrArg (run? · rest) hclose
  | .obj ((key, value) :: members) => by
      intro outer rest hdepth
      rw [depth] at hdepth
      have hvalue : outer.length + 1 + value.depth ≤ nestingLimit := by
        rw [depthOfMembers] at hdepth; omega
      rw [tokens, tokensOfMembers, intercalate_cons_eq_flatMap]
      simp only [List.cons_append, List.append_assoc]
      calc
        _ = run? (.atColon [] (some key) outer) (.colon :: (value.tokens ++
              ((tokensOfMembers members).flatMap (.comma :: ·) ++ .closeObject :: rest))) := by rfl
        _ = _ := by
          rw [(builds_tokens value).member hvalue,
            run?_members key value members [] outer rest (by omega), List.append_nil,
            objectOf_reverse, close_of_lt (by omega)]
          rfl
  | .str s => fun _ _ _ => rfl
  | .null => fun _ _ _ => rfl
  | .bool _ => fun _ _ _ => rfl
  | .int _ => fun _ _ _ => rfl
  | .float _ => fun _ _ _ => rfl
  | .unreadable => fun _ _ _ => rfl

theorem run?_items : forall (item : Json) (items : List Json) (read : List Json)
    (outer : List Unclosed) (rest : List Token),
    outer.length + 1 + depthOfItems (item :: items) ≤ nestingLimit ->
      run? (.after item.reread (.array read :: outer))
          ((tokensOfItems items).flatMap (.comma :: ·) ++ .closeArray :: rest) =
        run? (Progress.close (.arr (read.reverse ++ rereadItems (item :: items))) outer) rest
  | item, [], read, outer, rest, _ => by
      rw [rereadItems, rereadItems, ← List.reverse_cons]
      rfl
  | item, second :: items, read, outer, rest, hdepth => by
      rw [depthOfItems] at hdepth
      have hsecond : outer.length + 1 + second.depth ≤ nestingLimit := by
        rw [depthOfItems] at hdepth; omega
      rw [tokensOfItems, List.flatMap_cons, List.append_assoc]
      calc
        _ = run? (.atValue (.array (item.reread :: read) :: outer)) (second.tokens ++
              ((tokensOfItems items).flatMap (.comma :: ·) ++ .closeArray :: rest)) := by rfl
        _ = _ := by
          rw [builds_tokens second (.array (item.reread :: read) :: outer) _ hsecond,
            run?_items second items (item.reread :: read) outer rest (by omega),
            List.reverse_cons, List.append_assoc]
          rfl

theorem run?_members : forall (key : String) (value : Json) (members : List (String × Json))
    (read : List (Option String × Json)) (outer : List Unclosed) (rest : List Token),
    outer.length + 1 + depthOfMembers ((key, value) :: members) ≤ nestingLimit ->
      run? (.after value.reread (.object read (some key) :: outer))
          ((tokensOfMembers members).flatMap (.comma :: ·) ++ .closeObject :: rest) =
        run? (Progress.close
          (Progress.objectOf (((rereadMembers ((key, value) :: members)).map
            (fun m => (some m.1, m.2))).reverse ++ read)) outer) rest
  | key, value, [], read, outer, rest, _ => rfl
  | key, value, (next, second) :: members, read, outer, rest, hdepth => by
      rw [depthOfMembers] at hdepth
      have hsecond : outer.length + 1 + second.depth ≤ nestingLimit := by
        rw [depthOfMembers] at hdepth; omega
      rw [tokensOfMembers, List.flatMap_cons, List.append_assoc]
      calc
        _ = run? (.atColon ((some key, value.reread) :: read) (some next) outer)
              (.colon :: (second.tokens ++
                ((tokensOfMembers members).flatMap (.comma :: ·) ++ .closeObject :: rest))) := by
          rfl
        _ = _ := by
          rw [(builds_tokens second).member hsecond,
            run?_members next second members ((some key, value.reread) :: read) outer rest
              (by omega)]
          simp [rereadMembers]

end

/-- The text of a value that is not nested too deeply is read as what its words stand for. -/
theorem read?_compact {value : Json} (h : value.depth ≤ nestingLimit) :
    read? value.compact = some value.reread := by
  have hscan := scans_compact value [] [] (by intro c hc; cases hc)
  have hbuild := builds_tokens value [] [] (by simpa using h)
  rw [List.append_nil, List.append_nil] at hscan
  rw [List.append_nil] at hbuild
  have htokens : Token.ofChars? value.compact.toList = some value.tokens := by
    rw [Token.ofChars?, hscan, Token.collect?, List.reverse_reverse]
  unfold run? at hbuild
  rw [read?, htokens, Option.bind_some, ofTokens?, hbuild]
  rfl

/-! ## What tables of members are read as -/

theorem rereadMembers_eq_map (members : List (String × Json)) :
    rereadMembers members = members.map (fun m => (m.1, m.2.reread)) := by
  induction members with
  | nil => rfl
  | cons member rest ih => rw [rereadMembers, ih, List.map_cons]

theorem reread_object (entries : List (String × Json)) :
    (object entries).reread = object (entries.map (fun e => (e.1, e.2.reread))) := by
  rw [object, reread, rereadMembers_eq_map, Keyed.map_ofList]
  rfl

theorem depthOfMembers_le_iff {members : List (String × Json)} {n : Nat} :
    depthOfMembers members ≤ n <-> forall member, member ∈ members -> member.2.depth ≤ n := by
  induction members with
  | nil => simp [depthOfMembers]
  | cons member rest ih => rw [depthOfMembers, Nat.max_le, ih, List.forall_mem_cons]

theorem depth_object_le {entries : List (String × Json)} {n : Nat}
    (h : forall entry, entry ∈ entries -> entry.2.depth ≤ n) : (object entries).depth ≤ n + 1 := by
  have hmembers : depthOfMembers (Keyed.ofList entries) ≤ n :=
    depthOfMembers_le_iff.mpr fun member hmember => h member (Keyed.mem_of_mem_ofList hmember)
  rw [object, depth]
  omega

end Json
end DeckTools
