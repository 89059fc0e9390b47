import DeckTools.Http.Upload
import DeckTools.Proofs.Text.Cut
import DeckTools.Proofs.Text.Utf8

/-!
# Reading an upload back

An upload is two parts and a closing, each of which begins with the delimiter, that is with two
hyphens and the boundary.  The delimiter has no blank and no line end in it, so it is not found
across the frame and what is framed, whatever the bytes of the file are.  If it is in none of
the things that are sent, the body can only be cut in one way, which gives them back.
-/

namespace DeckTools

namespace Http

open Text

/-! ## Parts -/

def crlf : List UInt8 := [0x0D, 0x0A]

/-- What each part and the closing begin with. -/
def delimiter (boundary : String) : List UInt8 :=
  Utf8.encode ("--" ++ boundary)

def typeHeader : List UInt8 := Utf8.encode "Content-Type: "

def metadataType : List UInt8 := Utf8.encode "application/json; charset=UTF-8"

def closing : List UInt8 := Utf8.encode "--\r\n"

/-- Something that is sent, in its frame. -/
def part (delim type content : List UInt8) : List UInt8 :=
  delim ++ crlf ++ (typeHeader ++ type ++ crlf ++ ([] ++ crlf ++ (content ++ crlf)))

/-- Two parts and a closing, under one delimiter. -/
def twoParts (delim type content type' content' : List UInt8) : List UInt8 :=
  part delim type content ++ (part delim type' content' ++ (delim ++ closing))

theorem uploadBody_eq_twoParts (boundary mimeType : String) (metadata : Json)
    (bytes : List UInt8) :
    uploadBody boundary metadata mimeType bytes =
      twoParts (delimiter boundary) metadataType (Utf8.encode metadata.compact)
        (Utf8.encode mimeType) bytes := by
  have hfirst : Utf8.encode "\r\nContent-Type: application/json; charset=UTF-8\r\n\r\n" =
      crlf ++ (typeHeader ++ (metadataType ++ (crlf ++ crlf))) := by decide +kernel
  have hsecond : Utf8.encode "\r\n--" = crlf ++ Utf8.encode "--" := by decide
  have hheader : Utf8.encode "\r\nContent-Type: " = crlf ++ typeHeader := by decide
  have hempty : Utf8.encode "\r\n\r\n" = crlf ++ crlf := by decide
  have hclosing : Utf8.encode "--\r\n" = closing := rfl
  unfold uploadBody uploadHead uploadTail twoParts part delimiter
  simp only [Utf8.encode_append, hfirst, hsecond, hheader, hempty, hclosing, List.append_assoc,
    List.nil_append]

/-! ## The delimiter -/

/-- ASCII letters, digits and underscores. -/
def InBoundaryAlphabet (c : Char) : Prop :=
  ('A' ≤ c ∧ c ≤ 'Z') ∨ ('a' ≤ c ∧ c ≤ 'z') ∨ ('0' ≤ c ∧ c ≤ '9') ∨ c = '_'

instance (c : Char) : Decidable (InBoundaryAlphabet c) :=
  inferInstanceAs (Decidable (_ ∨ _))

/-- A boundary is not empty, and all of its characters are from that alphabet. -/
def IsBoundary (boundary : String) : Prop :=
  boundary ≠ "" ∧ forall c, c ∈ boundary.toList -> InBoundaryAlphabet c

instance (boundary : String) : Decidable (IsBoundary boundary) :=
  @instDecidableAnd _ _ _ (List.decidableBAll InBoundaryAlphabet boundary.toList)

theorem delimiter_eq (boundary : String) :
    delimiter boundary = [0x2D, 0x2D] ++ Utf8.encode boundary :=
  Utf8.encode_append "--" boundary

theorem IsBoundary.not_mem_encode {boundary : String} (h : IsBoundary boundary) {mark : Char}
    (hmark : mark ∈ ['\r', '\n', ' ', '-']) :
    mark.toUInt8 ∉ Utf8.encode boundary := by
  have hother : mark.toNat < 0x80 ∧ ¬ InBoundaryAlphabet mark := by
    simp only [List.mem_cons, List.not_mem_nil, or_false] at hmark
    rcases hmark with rfl | rfl | rfl | rfl <;> decide
  rw [Utf8.mem_encode_iff hother.1]
  exact fun hmem => hother.2 (h.2 mark hmem)

/-- What makes a delimiter stand out: it lies in one word of a line, and begins nowhere else. -/
structure StandsOut (delim : List UInt8) : Prop where
  noReturn : 0x0D ∉ delim
  noFeed : 0x0A ∉ delim
  noSpace : 0x20 ∉ delim
  hyphens : exists b rest, 0x2D ∉ b :: rest ∧ delim = 0x2D :: 0x2D :: b :: rest

theorem IsBoundary.standsOut {boundary : String} (h : IsBoundary boundary) :
    StandsOut (delimiter boundary) := by
  have hother (mark : Char) (hmark : mark ∈ ['\r', '\n', ' ']) :
      mark.toUInt8 ∉ delimiter boundary := by
    rw [delimiter_eq, List.mem_append, not_or]
    refine ⟨?_, h.not_mem_encode (List.mem_append_left ['-'] hmark)⟩
    simp only [List.mem_cons, List.not_mem_nil, or_false] at hmark
    rcases hmark with rfl | rfl | rfl <;> decide
  refine
    { noReturn := hother '\r' (by decide)
      noFeed := hother '\n' (by decide)
      noSpace := hother ' ' (by decide)
      hyphens := ?_ }
  have hhyphen : '-'.toUInt8 ∉ Utf8.encode boundary := h.not_mem_encode (by decide)
  cases hbytes : Utf8.encode boundary with
  | nil => exact absurd hbytes (Utf8.encode_ne_nil h.1)
  | cons b rest =>
      rw [hbytes] at hhyphen
      refine ⟨b, rest, hhyphen, ?_⟩
      rw [delimiter_eq, hbytes]
      rfl

/-! ## Places of the delimiter -/

namespace StandsOut

variable {delim type content : List UInt8}

theorem ne_nil (h : StandsOut delim) : delim ≠ [] := by
  rcases h.hyphens with ⟨b, rest, _, rfl⟩
  exact List.cons_ne_nil _ _

/-- A delimiter is not found across a line end. -/
theorem places_append_crlf (h : StandsOut delim) (front back : List UInt8) :
    places delim (front ++ crlf ++ back) =
      places delim front ++ (places delim back).map (· + (front ++ crlf).length) := by
  have hline : front ++ crlf ++ back = front ++ 0x0D :: ([] ++ 0x0A :: back) := by
    simp [crlf]
  have hempty : places delim [] = [] := rfl
  rw [hline, places_append_cons h.ne_nil h.noReturn, places_append_cons h.ne_nil h.noFeed, hempty,
    List.nil_append, List.map_map]
  congr 2
  funext place
  simp [crlf]
  omega

/-- A delimiter begins nowhere else in itself, and hyphens after it make no other one. -/
theorem places_self_append (h : StandsOut delim) {hyphens : List UInt8}
    (hhyphens : hyphens.length ≤ 2) :
    places delim (delim ++ hyphens) = [0] := by
  rcases h.hyphens with ⟨b, rest, hword, rfl⟩
  have hlater : ¬ 0x2D :: 0x2D :: b :: rest <:+: 0x2D :: (b :: rest ++ hyphens) := by
    intro hinfix
    rcases List.infix_cons_iff.mp hinfix with hhere | hthere
    · have hletter := (List.cons_prefix_cons.mp (List.cons_prefix_cons.mp hhere).2).1
      rw [hletter] at hword
      exact hword List.mem_cons_self
    · have hlength := (infix_of_infix_append_right hword hthere).length_le
      simp only [List.length_cons] at hlength
      omega
  have hstart : (0x2D :: 0x2D :: b :: rest).isPrefixOf
      (0x2D :: 0x2D :: b :: rest ++ hyphens) = true :=
    List.isPrefixOf_iff_prefix.mpr (List.prefix_append _ hyphens)
  rw [List.cons_append] at hstart ⊢
  rw [places_cons, hstart, if_pos rfl, List.cons_append,
    (places_eq_nil_iff (List.cons_ne_nil _ _)).mpr hlater]
  rfl

/-- The name of the header has no two hyphens, and a blank behind it. -/
theorem places_typeHeader (h : StandsOut delim) (htype : ¬ delim <:+: type) :
    places delim (typeHeader ++ type) = [] := by
  have hname : ¬ delim <:+: Utf8.encode "Content-Type:" := by
    rcases h.hyphens with ⟨b, rest, _, rfl⟩
    intro hinfix
    have hcount := hinfix.sublist.count_le 0x2D
    have hone : (Utf8.encode "Content-Type:").count 0x2D = 1 := by decide
    rw [hone, List.count_cons_self, List.count_cons_self] at hcount
    omega
  have hheader : typeHeader = Utf8.encode "Content-Type:" ++ [0x20] := by decide
  rw [hheader, List.append_assoc, List.singleton_append, places_append_cons h.ne_nil h.noSpace,
    (places_eq_nil_iff h.ne_nil).mpr hname, (places_eq_nil_iff h.ne_nil).mpr htype]
  rfl

theorem places_part (h : StandsOut delim) (htype : ¬ delim <:+: type)
    (hcontent : ¬ delim <:+: content) (rest : List UInt8) :
    places delim (part delim type content ++ rest) =
      0 :: (places delim rest).map (· + (part delim type content).length) := by
  have hself : places delim delim = [0] := by
    have hplaces := h.places_self_append (show ([] : List UInt8).length ≤ 2 by decide)
    rwa [List.append_nil] at hplaces
  have hempty : places delim [] = [] := rfl
  have hlines : part delim type content ++ rest =
      delim ++ crlf ++ (typeHeader ++ type ++ crlf ++
        ([] ++ crlf ++ (content ++ crlf ++ rest))) := by
    simp [part]
  rw [hlines, h.places_append_crlf, h.places_append_crlf, h.places_append_crlf,
    h.places_append_crlf, hself, h.places_typeHeader htype, hempty,
    (places_eq_nil_iff h.ne_nil).mpr hcontent]
  simp only [List.nil_append, List.singleton_append, List.map_map]
  congr 2
  funext place
  simp [part]
  omega

theorem places_closing (h : StandsOut delim) : places delim (delim ++ closing) = [0] := by
  have hline : delim ++ closing = delim ++ [0x2D, 0x2D] ++ crlf ++ [] := by
    have hclosing : closing = [0x2D, 0x2D] ++ crlf := by decide
    rw [hclosing, List.append_nil, List.append_assoc]
  have hempty : places delim [] = [] := rfl
  rw [hline, h.places_append_crlf, h.places_self_append (by decide), hempty]
  rfl

end StandsOut

/-! ## Reading -/

/-- The place is the start of the body, or comes right after the end of a line. -/
def StartsLine (body : List UInt8) (place : Nat) : Prop :=
  place = 0 ∨ crlf <:+ body.take place

/-- The type and the content of a part, from what follows its delimiter. -/
def readPart? (piece : List UInt8) : Option (List UInt8 × List UInt8) := do
  let afterName <- dropStart? (crlf ++ typeHeader) piece
  let (type, framed) <- splitOnce (crlf ++ crlf) afterName
  let reversed <- dropStart? crlf.reverse framed.reverse
  some (type, reversed.reverse)

theorem readPart?_drop_part {delim type content : List UInt8} (htype : 0x0D ∉ type) :
    readPart? ((part delim type content).drop delim.length) = some (type, content) := by
  have hpiece : (part delim type content).drop delim.length =
      (crlf ++ typeHeader) ++ (type ++ (crlf ++ crlf) ++ (content ++ crlf)) := by
    simp [part]
  have hcut : splitOnce (crlf ++ crlf) (type ++ (crlf ++ crlf) ++ (content ++ crlf)) =
      some (type, content ++ crlf) := by
    rw [splitOnce_eq_some_iff (by decide)]
    refine ⟨rfl, ?_⟩
    intro hinfix
    have hlength := (infix_of_infix_append_right htype hinfix).length_le
    exact absurd hlength (by decide)
  have hend : dropStart? crlf.reverse (content ++ crlf).reverse = some content.reverse := by
    rw [dropStart?_eq_some_iff, List.reverse_append]
  unfold readPart?
  simp only [hpiece, dropStart?_eq_some_iff.mpr rfl, hcut, hend, Option.bind_eq_bind,
    Option.bind_some, List.reverse_reverse]

theorem not_infix_metadataType {delim : List UInt8} (h : StandsOut delim) :
    ¬ delim <:+: metadataType := by
  rcases h.hyphens with ⟨b, rest, _, rfl⟩
  intro hinfix
  have hcount := hinfix.sublist.count_le 0x2D
  have hone : metadataType.count 0x2D = 1 := by decide +kernel
  rw [hone, List.count_cons_self, List.count_cons_self] at hcount
  omega

section TwoParts

variable {delim type type' content content' : List UInt8}

theorem places_twoParts (h : StandsOut delim) (htype : ¬ delim <:+: type)
    (hcontent : ¬ delim <:+: content) (htype' : ¬ delim <:+: type')
    (hcontent' : ¬ delim <:+: content') :
    places delim (twoParts delim type content type' content') =
      [0, (part delim type content).length,
        (part delim type content ++ part delim type' content').length] := by
  unfold twoParts
  rw [h.places_part htype hcontent, h.places_part htype' hcontent', h.places_closing]
  simp [Nat.add_comm]

theorem crlf_suffix_part (delim type content : List UInt8) :
    crlf <:+ part delim type content := by
  refine ⟨delim ++ crlf ++ (typeHeader ++ type ++ crlf ++ ([] ++ crlf ++ content)), ?_⟩
  simp [part]

theorem startsLine_twoParts (h : StandsOut delim) (htype : ¬ delim <:+: type)
    (hcontent : ¬ delim <:+: content) (htype' : ¬ delim <:+: type')
    (hcontent' : ¬ delim <:+: content') {place : Nat}
    (hplace : place ∈ places delim (twoParts delim type content type' content')) :
    StartsLine (twoParts delim type content type' content') place := by
  rw [places_twoParts h htype hcontent htype' hcontent'] at hplace
  simp only [List.mem_cons, List.not_mem_nil, or_false] at hplace
  rcases hplace with rfl | rfl | rfl
  · exact Or.inl rfl
  · right
    unfold twoParts
    rw [List.take_left]
    exact crlf_suffix_part delim type content
  · right
    unfold twoParts
    rw [← List.append_assoc, List.take_left]
    exact (crlf_suffix_part delim type' content').trans (List.suffix_append _ _)

theorem pieces_twoParts (h : StandsOut delim) (htype : ¬ delim <:+: type)
    (hcontent : ¬ delim <:+: content) (htype' : ¬ delim <:+: type')
    (hcontent' : ¬ delim <:+: content') :
    pieces delim (twoParts delim type content type' content') =
      [(part delim type content).drop delim.length,
        (part delim type' content').drop delim.length, closing] := by
  unfold pieces
  rw [places_twoParts h htype hcontent htype' hcontent']
  simp [twoParts, Nat.add_assoc, List.take_length_add_append, List.drop_length_add_append]

end TwoParts

/--
The delimiter is in the body of an upload at three places, each at the start of a line: at the
start of the body, between the parts and before the closing.  Cut there, the body gives back
what was sent, if the delimiter is in none of it and the type is one line.
-/
theorem uploadBody_reads_back {boundary mimeType : String} {metadata : Json}
    {bytes : List UInt8} (hboundary : IsBoundary boundary) (hmime : '\r' ∉ mimeType.toList)
    (hfree : forall sent, sent ∈ [Utf8.encode metadata.compact, Utf8.encode mimeType, bytes] ->
      ¬ delimiter boundary <:+: sent) :
    (exists middle last,
      places (delimiter boundary) (uploadBody boundary metadata mimeType bytes) =
        [0, middle, last]) ∧
    (forall place,
      place ∈ places (delimiter boundary) (uploadBody boundary metadata mimeType bytes) ->
        StartsLine (uploadBody boundary metadata mimeType bytes) place) ∧
    exists first second,
      pieces (delimiter boundary) (uploadBody boundary metadata mimeType bytes) =
        [first, second, closing] ∧
      readPart? first = some (metadataType, Utf8.encode metadata.compact) ∧
      readPart? second = some (Utf8.encode mimeType, bytes) := by
  have hout := hboundary.standsOut
  have hfixed := not_infix_metadataType hout
  have hmetadata := hfree (Utf8.encode metadata.compact) (by simp)
  have htype := hfree (Utf8.encode mimeType) (by simp)
  have hbytes := hfree bytes (by simp)
  have hline : 0x0D ∉ Utf8.encode mimeType := by
    have hiff : '\r'.toUInt8 ∈ Utf8.encode mimeType <-> '\r' ∈ mimeType.toList :=
      Utf8.mem_encode_iff (by decide) mimeType
    exact fun hreturn => hmime (hiff.mp hreturn)
  have hfixedLine : 0x0D ∉ metadataType := by decide +kernel
  rw [uploadBody_eq_twoParts]
  refine ⟨⟨_, _, places_twoParts hout hfixed hmetadata htype hbytes⟩, ?_, ?_⟩
  · exact fun _ hplace => startsLine_twoParts hout hfixed hmetadata htype hbytes hplace
  · exact ⟨_, _, pieces_twoParts hout hfixed hmetadata htype hbytes,
      readPart?_drop_part hfixedLine, readPart?_drop_part hline⟩

/-- Bytes that end like the frame, and begin like its delimiter. -/
def hardBytes : List UInt8 := Utf8.encode "--b0undar\r\n\r\n--b0undar\r\n-"

theorem uploadBody_reads_back_hardBytes :
    exists first second,
      pieces (delimiter "b0undary")
          (uploadBody "b0undary" (.obj [("name", .str "a.png")]) "image/png" hardBytes) =
        [first, second, closing] ∧
      readPart? first =
        some (metadataType, Utf8.encode (Json.obj [("name", .str "a.png")]).compact) ∧
      readPart? second = some (Utf8.encode "image/png", hardBytes) := by
  have hboundary : IsBoundary "b0undary" := by decide
  have hmime : '\r' ∉ "image/png".toList := by decide
  refine (uploadBody_reads_back hboundary hmime ?_).2.2
  intro sent hsent
  rw [← places_eq_nil_iff hboundary.standsOut.ne_nil]
  revert sent
  decide +kernel

end Http

end DeckTools
