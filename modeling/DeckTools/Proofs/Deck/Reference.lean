import DeckTools.Deck.Reference
import DeckTools.Proofs.Deck.Locate
import DeckTools.Proofs.Edit.Checked
import DeckTools.Rehearsal.SampleDeck

/-!
# What references mean

The ID of a presentation is taken without the blanks around it.  Callers count slides
from one, and of several slides with an ID they mean the first.  A reference that
resolves gives the slide that the position or the ID means.
-/

namespace DeckTools

variable {α : Type} {deck : Presentation α} {page : Page α} {position : Nat}

theorem checkPresentationId_eq_ok {raw id : String} (h : checkPresentationId raw = .ok id) :
    id = Text.trim raw := by
  unfold checkPresentationId at h
  dsimp only at h
  split at h
  case isTrue => exact absurd h failWith_ne_ok
  case isFalse =>
      split at h
      case isTrue =>
          cases h
          rfl
      case isFalse => exact absurd h failWith_ne_ok

/-- The slide at a position is the first with an ID. -/
structure Presentation.FirstSlide (deck : Presentation α) (id : String) (position : Nat)
    (page : Page α) : Prop where
  stands : deck.slides[position]? = some page
  named : page.objectId = id
  first : forall earlier other, earlier < position -> deck.slides[earlier]? = some other ->
    other.objectId ≠ id

theorem Presentation.slideById?_eq_some_iff {id : String} :
    deck.slideById? id = some (position, page) <-> deck.FirstSlide id position page := by
  have hfind : deck.slideById? id = some (position, page) <->
      deck.slides.zipIdx.find? (fun slide => slide.1.objectId == id) = some (page, position) := by
    unfold slideById?
    rw [Option.map_eq_some_iff]
    constructor
    · intro h
      rcases h with ⟨slide, hslide, heq⟩
      cases heq
      exact hslide
    · intro h
      exact ⟨_, h, rfl⟩
  rw [hfind, find?_eq_some_iff_least (zipIdx_pairwise deck.slides)
    (fun left right hlt => Nat.lt_asymm hlt), List.mk_mem_zipIdx_iff_getElem?, beq_iff_eq]
  constructor
  · intro h
    rcases h with ⟨hstands, hnamed, hleast⟩
    refine ⟨hstands, hnamed, ?_⟩
    intro earlier other hearlier hother heq
    have hmem : (other, earlier) ∈ deck.slides.zipIdx :=
      List.mk_mem_zipIdx_iff_getElem?.mpr hother
    rcases hleast (other, earlier) hmem (beq_iff_eq.mpr heq) with hsame | hlater
    · cases hsame
      exact Nat.lt_irrefl position hearlier
    · exact Nat.lt_asymm hearlier hlater
  · intro h
    refine ⟨h.stands, h.named, ?_⟩
    intro other hother hnamed
    have hstands : deck.slides[other.2]? = some other.1 := by
      exact List.mk_mem_zipIdx_iff_getElem?.mp hother
    rcases Nat.lt_trichotomy other.2 position with hearlier | hsame | hlater
    · exact absurd (beq_iff_eq.mp hnamed) (h.first other.2 other.1 hearlier hstands)
    · apply Or.inl
      rw [hsame, h.stands] at hstands
      exact Prod.ext (Option.some.inj hstands).symm hsame
    · exact Or.inr hlater

namespace SlideRef

/-- No ID is given but perhaps blanks. -/
def Unnamed (id : Option String) : Prop :=
  forall raw, id = some raw -> Text.trim raw = ""

/-- What callers mean by the position or the ID of a slide, blanks around it left out. -/
inductive Means (deck : Presentation α) (position : Nat) (page : Page α) :
    Option Int -> Option String -> Prop where
  | index {id : Option String} :
      Unnamed id ->
      deck.slides[position]? = some page ->
      Means deck position page (some (position + 1)) id
  | objectId {raw : String} :
      Text.trim raw ≠ "" ->
      deck.FirstSlide (Text.trim raw) position page ->
      Means deck position page none (some raw)

theorem unnamed_or_named (id : Option String) :
    Unnamed id ∨ exists raw, id = some raw ∧ Text.trim raw ≠ "" := by
  cases id with
  | none =>
      apply Or.inl
      intro raw heq
      cases heq
  | some raw =>
      by_cases hraw : Text.trim raw = ""
      · apply Or.inl
        intro other heq
        cases heq
        exact hraw
      · exact Or.inr ⟨raw, rfl, hraw⟩

theorem filter_trim_eq_none_iff {id : Option String} :
    (id.map Text.trim).filter (fun id => !id.isEmpty) = none <-> Unnamed id := by
  unfold Unnamed
  cases id with
  | none => simp
  | some raw => simp

theorem filter_trim_eq_some_iff {id : Option String} {name : String} :
    (id.map Text.trim).filter (fun id => !id.isEmpty) = some name <->
      name ≠ "" ∧ exists raw, id = some raw ∧ Text.trim raw = name := by
  rw [Option.filter_eq_some_iff, Option.map_eq_some_iff]
  simp [and_comm]

theorem ofParts_of_unnamed {index : Option Int} {id : Option String} {ref : SlideRef}
    (hid : Unnamed id) :
    ofParts index id = .ok ref <->
      exists position : Nat, index = some (position + 1 : Int) ∧ ref = .index (position + 1) := by
  unfold ofParts
  dsimp only
  rw [filter_trim_eq_none_iff.mpr hid]
  cases index with
  | none =>
      constructor
      · intro h
        exact absurd h failWith_ne_ok
      · intro h
        rcases h with ⟨position, hposition, _⟩
        cases hposition
  | some index =>
      dsimp only
      split
      case isTrue hlt =>
          constructor
          · intro h
            exact absurd h failWith_ne_ok
          · intro h
            rcases h with ⟨position, hposition, _⟩
            have hindex := Option.some.inj hposition
            omega
      case isFalse hge =>
          constructor
          · intro h
            cases h
            refine ⟨(index - 1).toNat, congrArg some ?_, congrArg SlideRef.index ?_⟩
            · omega
            · omega
          · intro h
            rcases h with ⟨position, hposition, rfl⟩
            cases hposition
            rfl

theorem ofParts_of_named {index : Option Int} {raw : String} {ref : SlideRef}
    (hraw : Text.trim raw ≠ "") :
    ofParts index (some raw) = .ok ref <->
      index = none ∧ ref = .objectId (Text.trim raw) := by
  unfold ofParts
  dsimp only
  rw [filter_trim_eq_some_iff.mpr ⟨hraw, raw, rfl, rfl⟩]
  cases index with
  | none =>
      constructor
      · intro h
        cases h
        exact ⟨rfl, rfl⟩
      · intro h
        rw [h.2]
  | some index =>
      constructor
      · intro h
        exact absurd h failWith_ne_ok
      · intro h
        cases h.1

/-- What a reference of a caller resolves to is what the caller means by it. -/
theorem resolve_eq_ok_iff {index : Option Int} {id : Option String} {ref : SlideRef}
    (h : ofParts index id = .ok ref) :
    ref.resolve deck = .ok (position, page) <-> Means deck position page index id := by
  rcases unnamed_or_named id with hid | ⟨raw, rfl, hraw⟩
  · rcases (ofParts_of_unnamed hid).mp h with ⟨number, rfl, rfl⟩
    unfold resolve
    dsimp only
    rw [Nat.add_sub_cancel]
    constructor
    · intro hresolved
      split at hresolved
      case h_1 other hslide =>
          cases hresolved
          exact .index hid hslide
      case h_2 => exact absurd hresolved failWith_ne_ok
    · intro hmeans
      generalize hindex : some (number + 1 : Int) = index at hmeans
      cases hmeans with
      | index _ hslide =>
          have heq : number = position := by
            have hint := Option.some.inj hindex
            omega
          rw [heq, hslide]
      | objectId => cases hindex
  · rcases (ofParts_of_named hraw).mp h with ⟨rfl, rfl⟩
    unfold resolve
    dsimp only
    constructor
    · intro hresolved
      split at hresolved
      case h_1 found hfound =>
          cases hresolved
          exact .objectId hraw (Presentation.slideById?_eq_some_iff.mp hfound)
      case h_2 => exact absurd hresolved failWith_ne_ok
    · intro hmeans
      cases hmeans with
      | objectId _ hfirst =>
          rw [Presentation.slideById?_eq_some_iff.mpr hfirst]

theorem resolve_error {ref : SlideRef} {e : ToolError} (h : ref.resolve deck = .error e) :
    e.kind = .slideNotFound := by
  cases ref with
  | index number =>
      unfold resolve at h
      dsimp only at h
      split at h
      case h_1 => cases h
      case h_2 =>
          cases h
          rfl
  | objectId id =>
      unfold resolve at h
      dsimp only at h
      split at h
      case h_1 => cases h
      case h_2 =>
          cases h
          rfl

/-! ## References of callers -/

theorem exists_ofParts_iff {index : Option Int} {id : Option String} :
    (exists ref, ofParts index id = .ok ref) <->
      (Unnamed id ∧ exists number, index = some number ∧ 1 ≤ number) ∨
        (¬ Unnamed id ∧ index = none) := by
  rcases unnamed_or_named id with hid | ⟨raw, rfl, hraw⟩
  · constructor
    · intro h
      rcases h with ⟨ref, href⟩
      rcases (ofParts_of_unnamed hid).mp href with ⟨position, hindex, _⟩
      exact Or.inl ⟨hid, _, hindex, by omega⟩
    · intro h
      rcases h with ⟨_, number, hindex, hnumber⟩ | ⟨hnamed, _⟩
      · refine ⟨_, (ofParts_of_unnamed hid).mpr ⟨(number - 1).toNat, ?_, rfl⟩⟩
        rw [hindex]
        exact congrArg some (by omega)
      · exact absurd hid hnamed
  · have hnamed : ¬ Unnamed (some raw) := fun hid => hraw (hid raw rfl)
    constructor
    · intro h
      rcases h with ⟨ref, href⟩
      exact Or.inr ⟨hnamed, ((ofParts_of_named hraw).mp href).1⟩
    · intro h
      rcases h with ⟨hid, _⟩ | ⟨_, hindex⟩
      · exact absurd hid hnamed
      · exact ⟨_, (ofParts_of_named hraw).mpr ⟨hindex, rfl⟩⟩

theorem pos_of_ofParts {index : Option Int} {id : Option String} {number : Nat}
    (h : ofParts index id = .ok (.index number)) :
    1 ≤ number := by
  rcases unnamed_or_named id with hid | ⟨raw, rfl, hraw⟩
  · rcases (ofParts_of_unnamed hid).mp h with ⟨position, _, heq⟩
    cases heq
    exact Nat.le_add_left 1 position
  · cases ((ofParts_of_named hraw).mp h).2

theorem exists_resolve_error_iff {ref : SlideRef} :
    (exists e, ref.resolve deck = .error e ∧ e.kind = .slideNotFound) <->
      ¬ exists position page, ref.resolve deck = .ok (position, page) := by
  cases hresolved : ref.resolve deck with
  | ok found =>
      constructor
      · intro h
        rcases h with ⟨_, h, _⟩
        cases h
      · intro h
        exact absurd ⟨found.1, found.2, rfl⟩ h
  | error e => simp [resolve_error hresolved]

end SlideRef

/-- No two slides have an ID in common, and no ID is blank or has blanks around it. -/
structure Presentation.SlidesNamed (deck : Presentation α) : Prop where
  distinct : deck.slides.Pairwise (fun slide other => slide.objectId ≠ other.objectId)
  notBlank : forall slide, slide ∈ deck.slides -> slide.objectId ≠ ""
  trimmed : forall slide, slide ∈ deck.slides -> Text.trim slide.objectId = slide.objectId

theorem Presentation.SlidesNamed.firstSlide (h : deck.SlidesNamed)
    (hstands : deck.slides[position]? = some page) :
    deck.FirstSlide page.objectId position page := by
  refine { stands := hstands, named := rfl, first := ?_ }
  intro earlier other hearlier hother heq
  rcases List.getElem?_eq_some_iff.mp hstands with ⟨hlt, hpage⟩
  rcases List.getElem?_eq_some_iff.mp hother with ⟨hltOther, hotherPage⟩
  apply List.pairwise_iff_getElem.mp h.distinct earlier position hltOther hlt hearlier
  rw [hpage, hotherPage, heq]

namespace SlideRef

/--
Callers name a slide by a position from one on or by an ID that is not blank.  What they name is
the slide they mean, and there is an error only if there is none.  Position and ID mean the same
slide if the IDs of slides are told apart.
-/
theorem resolves_consistently (deck : Presentation α) :
    (forall (index : Option Int) (id : Option String),
      (exists ref, ofParts index id = .ok ref) <->
        (Unnamed id ∧ exists number, index = some number ∧ 1 ≤ number) ∨
          (¬ Unnamed id ∧ index = none)) ∧
    (forall (index : Option Int) (id : Option String) (ref : SlideRef),
      ofParts index id = .ok ref ->
        (forall number, ref = .index number -> 1 ≤ number) ∧
        (forall position page,
          ref.resolve deck = .ok (position, page) <-> Means deck position page index id) ∧
        ((exists e, ref.resolve deck = .error e ∧ e.kind = .slideNotFound) <->
          ¬ exists position page, Means deck position page index id)) ∧
    (deck.SlidesNamed -> forall (position : Nat) (page : Page α),
      deck.slides[position]? = some page ->
        exists byIndex byId,
          ofParts (some (position + 1)) none = .ok byIndex ∧
            ofParts none (some page.objectId) = .ok byId ∧
            byIndex.resolve deck = .ok (position, page) ∧
            byId.resolve deck = .ok (position, page)) := by
  refine ⟨fun _ _ => exists_ofParts_iff, ?_, ?_⟩
  · intro index id ref href
    have hmeans : forall position page, ref.resolve deck = .ok (position, page) <->
        Means deck position page index id := fun _ _ => resolve_eq_ok_iff href
    refine ⟨?_, hmeans, ?_⟩
    · rintro number rfl
      exact pos_of_ofParts href
    · simp only [exists_resolve_error_iff, hmeans]
  · intro hnamed position page hstands
    have hmem := List.mem_of_getElem? hstands
    have htrim := hnamed.trimmed page hmem
    have hunnamed : Unnamed none := nofun
    have hgiven : Text.trim page.objectId ≠ "" := by
      rw [htrim]
      exact hnamed.notBlank page hmem
    have hindex : ofParts (some (position + 1)) none = .ok (.index (position + 1)) :=
      (ofParts_of_unnamed hunnamed).mpr ⟨position, rfl, rfl⟩
    have hid : ofParts none (some page.objectId) = .ok (.objectId (Text.trim page.objectId)) :=
      (ofParts_of_named hgiven).mpr ⟨rfl, rfl⟩
    have hfirst : deck.FirstSlide (Text.trim page.objectId) position page := by
      rw [htrim]
      exact hnamed.firstSlide hstands
    exact ⟨_, _, hindex, hid, (resolve_eq_ok_iff hindex).mpr (.index hunnamed hstands),
      (resolve_eq_ok_iff hid).mpr (.objectId hgiven hfirst)⟩

theorem resolves_consistently_sampleDeck :
    ofParts (some 2) (some " ") = .ok (.index 2) ∧
    Means Rehearsal.sampleDeck 1 Rehearsal.sampleMediaSlide (some 2) (some " ") ∧
    ofParts none (some " slide-3 ") = .ok (.objectId "slide-3") ∧
    (¬ exists position page, Means Rehearsal.sampleDeck position page none (some " slide-3 ")) ∧
    Rehearsal.sampleDeck.SlidesNamed ∧
    Rehearsal.sampleDeck.slides[1]? = some Rehearsal.sampleMediaSlide ∧
    exists byIndex byId,
      ofParts (some 2) none = .ok byIndex ∧ ofParts none (some "slide-2") = .ok byId ∧
        byIndex.resolve Rehearsal.sampleDeck = .ok (1, Rehearsal.sampleMediaSlide) ∧
        byId.resolve Rehearsal.sampleDeck = .ok (1, Rehearsal.sampleMediaSlide) := by
  have hindex : ofParts (some 2) (some " ") = .ok (.index 2) := rfl
  have hid : ofParts none (some " slide-3 ") = .ok (.objectId "slide-3") := rfl
  have hnamed : Rehearsal.sampleDeck.SlidesNamed :=
    { distinct := by simp [Rehearsal.sampleDeck, Rehearsal.sampleTitleSlide,
        Rehearsal.sampleMediaSlide]
      notBlank := by simp [Rehearsal.sampleDeck, Rehearsal.sampleTitleSlide,
        Rehearsal.sampleMediaSlide]
      trimmed := by
        intro slide hslide
        rcases List.mem_cons.mp hslide with rfl | hlater
        · rfl
        · rw [List.mem_singleton.mp hlater]
          rfl }
  have hslide : Rehearsal.sampleDeck.slides[1]? = some Rehearsal.sampleMediaSlide := rfl
  rcases resolves_consistently Rehearsal.sampleDeck with ⟨_, hresolves, hagree⟩
  refine ⟨hindex, ?_, hid, ?_, hnamed, hslide, hagree hnamed 1 _ hslide⟩
  · exact ((hresolves _ _ _ hindex).2.1 1 _).mp rfl
  · exact (hresolves _ _ _ hid).2.2.mp ⟨_, rfl, rfl⟩

end SlideRef

end DeckTools
