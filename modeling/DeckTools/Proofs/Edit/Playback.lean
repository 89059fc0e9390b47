import Mathlib.Tactic.Linarith
import DeckTools.Proofs.Edit.Modify
import DeckTools.Proofs.Edit.Resize
import DeckTools.Proofs.Geometry.Exact

/-!
# Playback windows

A window is checked in seconds and sent in milliseconds, which are rounded and held
within 64 bits.  Neither can turn two times around: a window that is accepted is still
in order when it is sent, also where its ends round together or run over.
-/

namespace DeckTools

/-! ## Rounding -/

theorem abs_sub_le_iff_of_lt {x near far : ℚ} (h : near < far) :
    |x - near| ≤ |x - far| <-> 2 * x ≤ near + far := by
  rcases abs_cases (x - near) with ⟨hnear, _⟩ | ⟨hnear, _⟩ <;>
    rcases abs_cases (x - far) with ⟨hfar, _⟩ | ⟨hfar, _⟩ <;>
    rw [hnear, hfar] <;> constructor <;> intro hle <;> linarith

theorem abs_sub_le_iff_of_gt {x near far : ℚ} (h : far < near) :
    |x - near| ≤ |x - far| <-> near + far ≤ 2 * x := by
  have hneg := abs_sub_le_iff_of_lt (x := -x) (neg_lt_neg h)
  rw [← neg_sub', abs_neg, ← neg_sub', abs_neg] at hneg
  rw [hneg]
  constructor <;> intro hle <;> linarith

/-- The whole number nearest to a number; of two that are as near, the one farther from zero. -/
structure RoundsAway (x : ℚ) (n : ℤ) : Prop where
  nearest : forall k : ℤ, |x - n| ≤ |x - k|
  away : forall k : ℤ, |x - k| = |x - n| -> |k| ≤ |n|

namespace RoundsAway

variable {x y : ℚ} {n m : ℤ}

theorem neg (h : RoundsAway x n) : RoundsAway (-x) (-n) := by
  have hdist : forall k : ℤ, |-x - k| = |x - (-k : ℤ)| := by
    intro k
    rw [← abs_neg]
    congr 1
    push_cast
    ring
  constructor
  · intro k
    rw [hdist, hdist, neg_neg]
    exact h.nearest (-k)
  · intro k hk
    rw [hdist, hdist, neg_neg] at hk
    have haway := h.away (-k) hk
    rwa [abs_neg] at haway ⊢

/-- Rounding keeps the order of two numbers. -/
theorem le_of_le (hx : RoundsAway x n) (hy : RoundsAway y m) (hle : x ≤ y) : n ≤ m := by
  by_contra hnot
  have hlt : (m : ℚ) < n := by exact_mod_cast not_le.mp hnot
  have hlow : (n : ℚ) + m ≤ 2 * x := (abs_sub_le_iff_of_gt hlt).mp (hx.nearest m)
  have hhigh : 2 * y ≤ (m : ℚ) + n := (abs_sub_le_iff_of_lt hlt).mp (hy.nearest n)
  -- Both numbers lie in the middle, so each result has to be as far from zero as the other.
  have hsame : y = x := by linarith
  subst hsame
  have htie : |y - n| = |y - m| := le_antisymm (hx.nearest m) (hy.nearest n)
  have habs : |n| = |m| := le_antisymm (hy.away n htie) (hx.away m htie.symm)
  have hequal : n = m := by
    rcases abs_eq_abs.mp habs with heq | hopposite
    · exact heq
    · have hzero : y = 0 := by
        rw [hopposite] at hlow hhigh
        push_cast at hlow hhigh
        linarith
      have hnear := hx.nearest 0
      rw [hzero] at hnear
      have hn : n = 0 := by simpa using hnear
      omega
  rw [hequal] at hlt
  exact lt_irrefl _ hlt

theorem floor_of_nonneg (h : 0 ≤ x) : RoundsAway x ⌊x + 1 / 2⌋ := by
  generalize hn : ⌊x + 1 / 2⌋ = n
  rcases Int.floor_eq_iff.mp hn with ⟨hle, hlt⟩
  have hnonneg : 0 ≤ n := by
    rw [← hn]
    exact Int.floor_nonneg.mpr (by linarith)
  constructor
  · intro k
    rcases lt_trichotomy k n with hk | hk | hk
    · have hcast : (k : ℚ) + 1 ≤ n := by exact_mod_cast hk
      apply (abs_sub_le_iff_of_gt (by linarith)).mpr
      linarith
    · rw [hk]
    · have hcast : (n : ℚ) + 1 ≤ k := by exact_mod_cast hk
      apply (abs_sub_le_iff_of_lt (by linarith)).mpr
      linarith
  · intro k htie
    -- Nothing above the floor is as near, and below it the number itself is at least zero.
    have hbelow : k ≤ n := by
      by_contra hnot
      have hcast : (n : ℚ) + 1 ≤ k := by exact_mod_cast not_le.mp hnot
      have hmid := (abs_sub_le_iff_of_gt (by linarith : (n : ℚ) < k)).mp htie.le
      linarith
    rw [abs_of_nonneg hnonneg]
    apply abs_le.mpr
    refine ⟨?_, hbelow⟩
    rcases hbelow.lt_or_eq with hk | hk
    · have hcast : (k : ℚ) < n := by exact_mod_cast hk
      have hmid := (abs_sub_le_iff_of_lt hcast).mp htie.le
      have hsum : 0 ≤ k + n := by exact_mod_cast (by linarith : (0 : ℚ) ≤ k + n)
      omega
    · omega

end RoundsAway

/-- A number that is rounded and then held between zero and the largest count of 64 bits. -/
def CountOf (x : ℚ) (count : ℕ) : Prop :=
  exists n : ℤ, RoundsAway x n ∧ (count : ℤ) = max 0 (min n (2 ^ 64 - 1))

theorem CountOf.le_of_le {x y : ℚ} {first last : ℕ} (hfirst : CountOf x first)
    (hlast : CountOf y last) (hle : x ≤ y) :
    first ≤ last := by
  rcases hfirst with ⟨n, hn, hfirst⟩
  rcases hlast with ⟨m, hm, hlast⟩
  have hround := hn.le_of_le hm hle
  omega

theorem countOf_toCount (x : ℚ) : CountOf x (Scalar.toCount x) := by
  have hcount : Scalar.toCount x = min (2 ^ 64 - 1) ⌊x + 1 / 2⌋.toNat := rfl
  rcases le_or_gt 0 x with hnonneg | hneg
  · refine ⟨_, RoundsAway.floor_of_nonneg hnonneg, ?_⟩
    rw [hcount]
    omega
  · have hopposite := (RoundsAway.floor_of_nonneg (neg_nonneg.mpr hneg.le)).neg
    rw [neg_neg] at hopposite
    refine ⟨_, hopposite, ?_⟩
    -- Below zero both sides are held at zero.
    have hbelow : ⌊x + 1 / 2⌋ ≤ 0 := by
      apply Int.lt_add_one_iff.mp
      apply Int.floor_lt.mpr
      push_cast
      linarith
    have habove : 0 ≤ ⌊-x + 1 / 2⌋ := Int.floor_nonneg.mpr (by linarith)
    rw [hcount]
    omega

/-- Counting is that rounding, and nothing else is. -/
theorem countOf_iff {x : ℚ} {count : ℕ} : CountOf x count <-> Scalar.toCount x = count := by
  constructor
  · intro h
    have hcount := countOf_toCount x
    exact le_antisymm (hcount.le_of_le h le_rfl) (h.le_of_le hcount le_rfl)
  · intro h
    rw [← h]
    exact countOf_toCount x

theorem milliseconds_eq (seconds : ℚ) :
    milliseconds seconds = min (2 ^ 64 - 1) ⌊seconds * 1000 + 1 / 2⌋.toNat := rfl

/-! ## Windows that are accepted -/

theorem checkTime_eq_ok {name : String} {value : Option ℚ} :
    checkTime name value = .ok () <-> forall time, value = some time -> 0 ≤ time := by
  cases value with
  | none => simp [checkTime]
  | some time =>
      unfold checkTime
      dsimp only
      simp only [Exact.isFinite_eq, Exact.lt_eq, Exact.ofInt_eq, Int.cast_zero, Bool.not_true,
        Bool.false_or, decide_eq_true_eq, Option.some.injEq, forall_eq']
      split
      case isTrue hneg =>
          constructor
          · intro h
            exact absurd h failWith_ne_ok
          · intro hnonneg
            exact absurd hneg (not_lt.mpr hnonneg)
      case isFalse hnot =>
          constructor
          · intro _
            exact not_lt.mp hnot
          · intro _
            rfl

/-- A pair of times is a window if it does not start before zero, nor end before it starts. -/
theorem checkTimeRange_eq_ok {start stop : ℚ} :
    checkTimeRange (some start) (some stop) = .ok () <-> 0 ≤ start ∧ start ≤ stop := by
  unfold checkTimeRange
  simp only [Exact.lt_eq, decide_eq_true_eq]
  constructor
  · intro h
    rcases bind_eq_ok.mp h with ⟨_, hstart, h⟩
    rcases bind_eq_ok.mp h with ⟨_, _, h⟩
    split at h
    case isTrue => exact absurd h failWith_ne_ok
    case isFalse hnot => exact ⟨checkTime_eq_ok.mp hstart start rfl, not_lt.mp hnot⟩
  · intro h
    rcases h with ⟨hnonneg, hle⟩
    have hstart : checkTime "start_time" (some start) = .ok () := by
      apply checkTime_eq_ok.mpr
      intro time htime
      cases htime
      exact hnonneg
    have hstop : checkTime "end_time" (some stop) = .ok () := by
      apply checkTime_eq_ok.mpr
      intro time htime
      cases htime
      exact le_trans hnonneg hle
    rw [hstart, hstop, ok_bind, ok_bind, if_neg (not_lt.mpr hle)]

/-! ## Windows that are sent -/

def VideoEdit.playback {α : Type} (edit : VideoEdit α) : VideoEdit Float :=
  { position := none
    size := none
    start := edit.start
    stop := edit.stop
    autoplay := edit.autoplay
    mute := edit.mute }

/-- The request sets both ends of the window of a video, as they are given. -/
structure Request.SetsWindow {α : Type} [Scalar α] (request : Request α) (objectId : String)
    (first last : ℕ) : Prop where
  objectId :
    request.toJson.at? ["updateVideoProperties", "objectId"] = some (.str objectId)
  start :
    request.toJson.at? ["updateVideoProperties", "videoProperties", "start"] =
      some (.ofNat first)
  stop :
    request.toJson.at? ["updateVideoProperties", "videoProperties", "end"] =
      some (.ofNat last)
  fields :
    exists others,
      request.toJson.at? ["updateVideoProperties", "fields"] =
        some (.str (String.intercalate "," ("start" :: "end" :: others)))

/-- The plan sets the window with its last request; nothing but a move goes before. -/
def EditPlan.SendsWindow {α : Type} [Scalar α] (plan : EditPlan α) (objectId : String)
    (first last : ℕ) : Prop :=
  exists (transform : Option (Transform α)) (request : Request α),
    plan.requests = (transform.map (Request.setTransform objectId)).toList ++ [request] ∧
    request.SetsWindow objectId first last

section Sent

variable {α : Type} [Scalar α] {first last : ℕ}

section Update

variable (update : PropertyUpdate)

theorem Request.at?_updateVideo (keys : List String) :
    (updateVideoProperties update : Request α).toJson.at? ("updateVideoProperties" :: keys) =
      (updateVideoProperties update : Request α).body.at? keys := rfl

theorem Request.at?_videoObjectId :
    (updateVideoProperties update : Request α).body.at? ["objectId"] =
      some (.str update.objectId) := by
  rw [body, Json.at?_cons, Json.get?_object]
  rfl

theorem Request.at?_videoProperties (keys : List String) :
    (updateVideoProperties update : Request α).body.at? ("videoProperties" :: keys) =
      update.values.at? keys := by
  rw [body, Json.at?_cons, Json.get?_object]
  rfl

theorem Request.at?_videoFields :
    (updateVideoProperties update : Request α).body.at? ["fields"] =
      some (.str update.fields) := by
  rw [body, Json.at?_cons, Json.get?_object]
  rfl

end Update

theorem VideoEdit.setsWindow_ofMask {edit : VideoEdit α} (hstart : edit.start = some first)
    (hstop : edit.stop = some last) (objectId : String) :
    (Request.updateVideoProperties (.ofMask objectId edit.mask) : Request α).SetsWindow
      objectId first last := by
  have hsends : (PropertyUpdate.ofMask objectId edit.mask).Sends
      (changed edit.playback.properties) := edit.playback.lists_mask.sends objectId
  have hchanged : changed edit.playback.properties =
      (["start"], some (.ofNat first)) :: (["end"], some (.ofNat last)) ::
        changed (edit.playback.properties.drop 2) := by
    unfold properties playback
    rw [hstart, hstop]
    rfl
  rw [hchanged] at hsends
  constructor
  · rw [Request.at?_updateVideo, Request.at?_videoObjectId]
    rfl
  · rw [Request.at?_updateVideo, Request.at?_videoProperties]
    exact hsends.sent ["start"] _ List.mem_cons_self
  · rw [Request.at?_updateVideo, Request.at?_videoProperties]
    exact hsends.sent ["end"] _ (List.mem_cons_of_mem _ List.mem_cons_self)
  · rw [Request.at?_updateVideo, Request.at?_videoFields, hsends.fields]
    exact ⟨_, rfl⟩

/-- A video is told its window unless a size is asked of it that it cannot have. -/
theorem CheckedVideoEdit.sendsWindow {edit : CheckedVideoEdit α}
    (hstart : edit.start = some first) (hstop : edit.stop = some last) {element : Element α}
    (hvideo : element.isVideo = true) :
    (exists plan,
        modifyVideo element edit.toVideoEdit = .ok plan ∧
          plan.SendsWindow element.objectId first last) ∨
      exists e,
        modifyVideo element edit.toVideoEdit = .error e ∧ e.kind = .invalidObjectState ∧
          edit.size.isSome = true := by
  rw [modifyVideo_eq hvideo]
  cases hplan : planEdit element edit.position edit.size .updateVideoProperties edit.mask with
  | error e =>
      refine Or.inr ⟨e, rfl, ?_⟩
      exact ⟨planEdit_error edit.size_passes hplan, isSome_size_of_planEdit_error hplan⟩
  | ok requests =>
      refine Or.inl ⟨_, rfl, ?_⟩
      rcases exists_parts_of_planEdit hplan with
        ⟨transform, update, hparts, _, hupdated, hsent⟩
      have hasked : update.isSome = true := by
        rw [hupdated, edit.isEmpty_mask, Bool.not_not, VideoEdit.changesProperties, hstart]
        rfl
      rcases Option.isSome_iff_exists.mp hasked with ⟨sent, hsome⟩
      have hmask := hsent sent hsome
      subst hsome hmask
      exact ⟨transform, _, hparts, VideoEdit.setsWindow_ofMask hstart hstop element.objectId⟩

end Sent

/--
Two times are accepted exactly if the first is at least zero and the second is not before
it.  The edit has both in milliseconds, rounded and held within 64 bits, and still in order,
and these counts are what a plan for a video sends as the ends of its window.  There is such
a plan unless a size is asked of an element that cannot be stretched.
-/
theorem VideoChanges.window_stays_ordered :
    (forall start stop : ℚ,
      checkTimeRange (some start) (some stop) = .ok () <-> 0 ≤ start ∧ start ≤ stop) ∧
    forall (changes : VideoChanges ℚ) (edit : CheckedVideoEdit ℚ) (start stop : ℚ),
      changes.startTime = some start -> changes.endTime = some stop ->
      changes.check = .ok edit ->
        exists first last,
          edit.start = some first ∧ edit.stop = some last ∧ first ≤ last ∧
          CountOf (start * 1000) first ∧ CountOf (stop * 1000) last ∧
          forall element : Element ℚ, element.isVideo = true ->
            (exists plan,
              modifyVideo element edit.toVideoEdit = .ok plan ∧
                plan.SendsWindow element.objectId first last) ∨
            exists e,
              modifyVideo element edit.toVideoEdit = .error e ∧ e.kind = .invalidObjectState ∧
                edit.size.isSome = true := by
  constructor
  · intro start stop
    exact checkTimeRange_eq_ok
  · intro changes edit start stop hstartTime hendTime hcheck
    rcases VideoChanges.edit_of_check hcheck with ⟨hwindow, hedit⟩
    rw [hstartTime, hendTime] at hwindow
    rcases checkTimeRange_eq_ok.mp hwindow with ⟨_, hle⟩
    have hstart : edit.start = some (milliseconds start) := by
      rw [hedit, hstartTime]
      rfl
    have hstop : edit.stop = some (milliseconds stop) := by
      rw [hedit, hendTime]
      rfl
    have hfirst : CountOf (start * 1000) (milliseconds start) := countOf_iff.mpr rfl
    have hlast : CountOf (stop * 1000) (milliseconds stop) := countOf_iff.mpr rfl
    refine ⟨_, _, hstart, hstop, ?_, hfirst, hlast, ?_⟩
    · exact hfirst.le_of_le hlast (by linarith)
    · intro element hvideo
      exact CheckedVideoEdit.sendsWindow hstart hstop hvideo

namespace Rehearsal

/-- From a half millisecond past a second to beyond the largest count of milliseconds. -/
def longWindow : VideoChanges ℚ :=
  { position := none
    size := none
    startTime := some (2001 / 2000)
    endTime := some (10 ^ 17)
    autoplay := none
    mute := none }

def longWindowEdit : VideoEdit ℚ :=
  { position := none
    size := none
    start := some 1001
    stop := some 18446744073709551615
    autoplay := none
    mute := none }

end Rehearsal

theorem VideoChanges.window_stays_ordered_long :
    CountOf (2001 / 2) 1001 ∧ CountOf (10 ^ 20) 18446744073709551615 ∧
    exists edit plan,
      Rehearsal.longWindow.check = .ok edit ∧
        edit.toVideoEdit = Rehearsal.longWindowEdit ∧
        modifyVideo Rehearsal.plainVideo edit.toVideoEdit = .ok plan ∧
        plan.SendsWindow "video-1" 1001 18446744073709551615 := by
  have hwindow : checkTimeRange (some (2001 / 2000 : ℚ)) (some (10 ^ 17)) = .ok () :=
    checkTimeRange_eq_ok.mpr (by norm_num)
  have hstart : milliseconds (2001 / 2000 : ℚ) = 1001 := by
    rw [milliseconds_eq]
    norm_num
    rfl
  have hstop : milliseconds (10 ^ 17 : ℚ) = 18446744073709551615 := by
    rw [milliseconds_eq]
    norm_num
  have hcheck : exists edit, Rehearsal.longWindow.check = .ok edit := by
    unfold VideoChanges.check Rehearsal.longWindow
    dsimp only
    rw [hwindow]
    exact ⟨_, rfl⟩
  rcases hcheck with ⟨edit, hcheck⟩
  have hedit : edit.toVideoEdit = Rehearsal.longWindowEdit := by
    rw [(edit_of_check hcheck).2]
    unfold Rehearsal.longWindow
    dsimp only
    rw [Option.map_some, Option.map_some, hstart, hstop]
    rfl
  rcases window_stays_ordered.2 _ _ _ _ rfl rfl hcheck with
    ⟨first, last, hfirst, hlast, _, hcountFirst, hcountLast, hplans⟩
  rw [hedit] at hfirst hlast
  cases hfirst
  cases hlast
  norm_num at hcountFirst hcountLast
  refine ⟨hcountFirst, hcountLast, edit, ?_⟩
  rcases hplans Rehearsal.plainVideo rfl with ⟨plan, hplan, hsends⟩ | ⟨e, _, _, hsize⟩
  · exact ⟨plan, hcheck, hedit, hplan, hsends⟩
  · rw [hedit] at hsize
    cases hsize

end DeckTools
