import DeckTools.Image.Payload
import DeckTools.Proofs.Edit.Checked
import DeckTools.Proofs.Text.Base64
import DeckTools.Proofs.Text.Blank
import DeckTools.Proofs.Text.Cut

/-!
# How images are spelled

An image is spelled by the base64 of its bytes, with blanks wherever they please and
perhaps behind the head of a data URL.  Every such spelling of an image is read, and
nothing else is.
-/

namespace DeckTools

namespace ImagePayload

open Text

/-! ## Spellings -/

def mark : List Char :=
  ";base64,".toList

/-- Nothing, or the head of a data URL, which ends with the first mark in it. -/
def IsHead (head : List Char) : Prop :=
  head = [] ∨ exists kind, ¬ mark <:+: kind ∧ head = "data:".toList ++ kind ++ mark

/-- A text spells bytes by their base64, in which blanks do not count. -/
def Spells (raw : String) (bytes : List UInt8) : Prop :=
  exists before head payload after,
    before.all isBlank = true ∧ after.all isBlank = true ∧ IsHead head ∧
      raw.toList = before ++ (head ++ payload) ++ after ∧
      withoutBlanks payload = Base64.encodeChars bytes

/-! ## Heads -/

theorem not_mark_infix {kind : List Char} (h : ¬ mark <:+: kind) :
    ¬ mark <:+: ("data:".toList ++ kind) ++ mark.dropLast := by
  -- The mark begins and ends with characters that stand nowhere else in a head.
  intro hinfix
  have hwhole : mark.dropLast ++ [','] <:+: ("data:".toList ++ kind) ++ mark.dropLast := hinfix
  have hearly : ';' :: "base64,".toList <:+: "data:".toList ++ kind :=
    infix_of_infix_append_left (by decide) hwhole
  exact h (infix_of_infix_append_right (by decide) hearly)

theorem body_data {kind payload : List Char} (h : ¬ mark <:+: kind) :
    body ("data:".toList ++ kind ++ mark ++ payload) = payload := by
  have hcut : splitOnce mark ("data:".toList ++ kind ++ mark ++ payload) =
      some ("data:".toList ++ kind, payload) :=
    (splitOnce_eq_some_iff (by decide)).mpr ⟨rfl, not_mark_infix h⟩
  have hstart : "data:".toList.isPrefixOf ("data:".toList ++ kind) = true :=
    List.isPrefixOf_iff_prefix.mpr (List.prefix_append _ kind)
  unfold body
  rw [show ";base64,".toList = mark from rfl, hcut]
  dsimp only
  rw [if_pos hstart]

theorem body_eq_self {text : List Char} (h : ';' ∉ text) : body text = text := by
  unfold body
  split
  case h_1 front payload hcut =>
      have htext := ((splitOnce_eq_some_iff (by decide)).mp hcut).1
      rw [htext] at h
      exact absurd (by simp) h
  case h_2 => rfl

/-- What is not in the body of a text is its head. -/
theorem exists_head (text : List Char) : exists head, IsHead head ∧ text = head ++ body text := by
  unfold body
  split
  case h_1 front payload hcut =>
      rcases (splitOnce_eq_some_iff (by decide)).mp hcut with ⟨htext, hfirst⟩
      split
      case isTrue hstart =>
          rcases List.isPrefixOf_iff_prefix.mp hstart with ⟨kind, hkind⟩
          refine ⟨front ++ mark, Or.inr ⟨kind, ?_, by rw [hkind]⟩, htext⟩
          intro hinfix
          apply hfirst
          rw [← hkind]
          exact hinfix.trans (List.infix_append "data:".toList kind _)
      case isFalse => exact ⟨[], Or.inl rfl, rfl⟩
  case h_2 => exact ⟨[], Or.inl rfl, rfl⟩

/-- The head of a data URL neither begins nor ends with a blank, so it is not trimmed. -/
theorem toList_trim_data {raw : String} {before kind rest : List Char}
    (hbefore : before.all isBlank = true)
    (hraw : raw.toList = before ++ ("data:".toList ++ kind ++ mark ++ rest)) :
    (trim raw).toList = "data:".toList ++ kind ++ mark ++ trimEnd rest := by
  have hstart : trimStart ("data:".toList ++ kind ++ mark ++ rest) =
      "data:".toList ++ kind ++ mark ++ rest :=
    trimStart_cons (c := 'd') rfl
  have hmark : mark = mark.dropLast ++ [','] := by decide
  have hend (rest : List Char) : "data:".toList ++ kind ++ mark ++ rest =
      ("data:".toList ++ kind ++ mark.dropLast) ++ ',' :: rest := by
    conv => lhs; rw [hmark]
    simp only [List.append_assoc, List.singleton_append]
  rw [toList_trim, hraw, trimStart_append hbefore, hstart, hend,
    trimEnd_append_cons (c := ',') rfl, ← hend]

/-! ## Reading -/

theorem semicolon_not_mem_encodeChars (bytes : List UInt8) :
    ';' ∉ Base64.encodeChars bytes := by
  intro hmem
  have hall := Base64.forall_mem_encodeChars (p := fun c => c != ';') (by decide) (by decide) bytes
  exact absurd (List.all_eq_true.mp hall _ hmem) (by decide)

theorem symbols_eq (raw : String) : symbols raw = withoutBlanks (body (trim raw).toList) := rfl

theorem spells_iff {raw : String} {bytes : List UInt8} :
    Spells raw bytes <-> symbols raw = Base64.encodeChars bytes := by
  rw [symbols_eq]
  constructor
  · intro h
    rcases h with ⟨before, head, payload, after, hbefore, hafter, hhead, hraw, hpayload⟩
    rcases hhead with hnil | ⟨kind, hkind, hhead⟩
    · have hsame : withoutBlanks raw.toList = Base64.encodeChars bytes := by
        rw [hraw, hnil, withoutBlanks_append, withoutBlanks_append, List.nil_append,
          withoutBlanks_eq_nil hbefore, withoutBlanks_eq_nil hafter, hpayload, List.nil_append,
          List.append_nil]
      -- No character of a spelling begins a mark.
      have hmark : ';' ∉ (trim raw).toList := by
        intro hmem
        have hspelled := mem_withoutBlanks.mpr ⟨hmem, rfl⟩
        rw [withoutBlanks_trim, hsame] at hspelled
        exact semicolon_not_mem_encodeChars bytes hspelled
      rw [body_eq_self hmark, withoutBlanks_trim, hsame]
    · have htrim : (trim raw).toList =
          "data:".toList ++ kind ++ mark ++ trimEnd (payload ++ after) := by
        apply toList_trim_data hbefore
        rw [hraw, hhead]
        simp only [List.append_assoc]
      rw [htrim, body_data hkind, withoutBlanks_trimEnd, withoutBlanks_append,
        withoutBlanks_eq_nil hafter, List.append_nil, hpayload]
  · intro h
    rcases exists_trim raw with ⟨before, after, hbefore, hafter, hraw⟩
    rcases exists_head (trim raw).toList with ⟨head, hhead, htext⟩
    refine ⟨before, head, body (trim raw).toList, after, hbefore, hafter, hhead, ?_, h⟩
    rw [← htext, hraw]

theorem ofText_eq_ok_iff {raw : String} {image : ImagePayload} :
    ofText raw = .ok image <->
      Base64.decodeChars? (symbols raw) = some image.bytes ∧
        ImageFormat.detect? image.bytes = some image.format := by
  unfold ofText
  dsimp only
  split
  case isTrue hempty =>
      -- Nothing is the spelling of no bytes, and these are no image.
      rw [List.isEmpty_iff.mp hempty]
      apply iff_of_false failWith_ne_ok
      intro h
      have hbytes : [] = image.bytes := Option.some.inj h.1
      rw [← hbytes] at h
      cases h.2
  case isFalse =>
      split
      case h_1 hbytes =>
          rw [hbytes]
          exact iff_of_false failWith_ne_ok (by simp)
      case h_2 bytes hbytes =>
          rw [hbytes]
          split
          case h_1 format hformat =>
              constructor
              · intro h
                cases h
                exact ⟨rfl, hformat⟩
              · intro h
                cases Option.some.inj h.1
                cases hformat.symm.trans h.2
                rfl
          case h_2 hformat =>
              apply iff_of_false failWith_ne_ok
              intro h
              cases Option.some.inj h.1
              cases hformat.symm.trans h.2

theorem ofText_error {raw : String} {e : ToolError} (h : ofText raw = .error e) :
    e.kind = .invalidImageData := by
  unfold ofText at h
  dsimp only at h
  split at h
  case isTrue =>
      cases h
      rfl
  case isFalse =>
      split at h
      case h_1 =>
          cases h
          rfl
      case h_2 =>
          split at h
          case h_1 => cases h
          case h_2 =>
              cases h
              rfl

/-- Without any blanks the base64 of bytes spells them. -/
theorem spells_encode (bytes : List UInt8) : Spells (Base64.encode bytes) bytes := by
  have hdense : withoutBlanks (Base64.encodeChars bytes) = Base64.encodeChars bytes :=
    List.filter_eq_self.mpr (List.all_eq_true.mp
      (Base64.forall_mem_encodeChars (p := fun c => !isBlank c) (by decide) (by decide) bytes))
  refine ⟨[], [], Base64.encodeChars bytes, [], rfl, rfl, Or.inl rfl, ?_, hdense⟩
  rw [Base64.encode, String.toList_ofList]
  simp

/--
A text is read as an image exactly if it spells the bytes of one, and the format is the
one that shows in them; a text that is not read has invalid image data.  The plain base64
of bytes is one of their spellings.
-/
theorem ofText_round_trip (raw : String) :
    (forall image, ofText raw = .ok image <->
      Spells raw image.bytes ∧ ImageFormat.detect? image.bytes = some image.format) ∧
    (forall e, ofText raw = .error e -> e.kind = .invalidImageData) ∧
    forall bytes, Spells (Base64.encode bytes) bytes := by
  refine ⟨?_, ?_, spells_encode⟩
  · intro image
    rw [ofText_eq_ok_iff, Base64.decodeChars?_eq_some_iff, spells_iff]
  · intro e he
    exact ofText_error he

end ImagePayload

end DeckTools
