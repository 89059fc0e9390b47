import DeckTools.Edit.Checks

/-!
# What checks accept

A chain of checks succeeds only if each of them does, so an edit that comes out of
one has passed them all.
-/

namespace DeckTools

/-! ## Chains of checks -/

section Chains

variable {ε α β : Type}

theorem ok_bind (value : α) (rest : α -> Except ε β) :
    (Except.ok value >>= rest) = rest value := rfl

theorem error_bind (error : ε) (rest : α -> Except ε β) :
    (Except.error error >>= rest) = Except.error error := rfl

theorem bind_ok_eq_map (checked : Except ε α) (write : α -> β) :
    (checked >>= fun value => Except.ok (write value)) = checked.map write := by
  cases checked <;> rfl

theorem bind_eq_ok {checked : Except ε α} {rest : α -> Except ε β} {result : β} :
    checked >>= rest = .ok result <->
      exists value, checked = .ok value ∧ rest value = .ok result := by
  cases checked with
  | error error =>
      constructor
      · intro h
        cases h
      · intro h
        rcases h with ⟨value, hvalue, _⟩
        cases hvalue
  | ok value =>
      constructor
      · intro h
        exact ⟨value, rfl, h⟩
      · intro h
        rcases h with ⟨other, hother, h⟩
        cases hother
        exact h

theorem bind_eq_error {checked : Except ε α} {rest : α -> Except ε β} {error : ε} :
    checked >>= rest = .error error <->
      checked = .error error ∨ exists value, checked = .ok value ∧ rest value = .error error := by
  cases checked with
  | error other =>
      constructor
      · intro h
        cases h
        exact Or.inl rfl
      · intro h
        rcases h with h | ⟨value, hvalue, _⟩
        · cases h
          rfl
        · cases hvalue
  | ok value =>
      constructor
      · intro h
        exact Or.inr ⟨value, rfl, h⟩
      · intro h
        rcases h with h | ⟨other, hother, h⟩
        · cases h
        · cases hother
          exact h

theorem map_eq_ok {checked : Except ε α} {write : α -> β} {result : β} :
    checked.map write = .ok result <->
      exists value, checked = .ok value ∧ write value = result := by
  cases checked with
  | error error =>
      constructor
      · intro h
        cases h
      · intro h
        rcases h with ⟨value, hvalue, _⟩
        cases hvalue
  | ok value =>
      constructor
      · intro h
        cases h
        exact ⟨value, rfl, rfl⟩
      · intro h
        rcases h with ⟨other, hother, heq⟩
        cases hother
        rw [← heq]
        rfl

theorem map_eq_error {checked : Except ε α} {write : α -> β} {error : ε} :
    checked.map write = .error error <-> checked = .error error := by
  cases checked with
  | error other =>
      constructor
      · intro h
        cases h
        rfl
      · intro h
        cases h
        rfl
  | ok value =>
      constructor
      · intro h
        cases h
      · intro h
        cases h

theorem failWith_ne_ok {kind : ToolErrorKind} {detail : String} {value : α} :
    failWith kind detail ≠ .ok value := by
  intro h
  cases h

end Chains

variable {α : Type} [Scalar α]

/-! ## Sizes and crops -/

theorem TargetSize.isEmpty_of_check {size : TargetSize α} (h : size.check = .ok ()) :
    size.isEmpty = false := by
  cases hempty : size.isEmpty with
  | false => rfl
  | true =>
      unfold TargetSize.check at h
      rw [hempty] at h
      cases h

theorem Crop.isEmpty_of_check {crop : Crop α} (h : crop.check = .ok ()) :
    crop.isEmpty = false := by
  cases hempty : crop.isEmpty with
  | false => rfl
  | true =>
      unfold Crop.check at h
      rw [hempty] at h
      cases h

/-! ## Edits -/

/-- What is accepted becomes an edit as it stands, except for the colour effect. -/
theorem ImageChanges.edit_of_check {changes : ImageChanges α} {edit : CheckedImageEdit α}
    (h : changes.check = .ok edit) :
    exists recolor, changes.recolor.mapM Recolor.ofText = .ok recolor ∧
      edit.toImageEdit =
        { position := changes.position
          size := changes.size
          brightness := changes.brightness
          contrast := changes.contrast
          transparency := changes.transparency
          crop := changes.crop
          recolor } := by
  unfold ImageChanges.check at h
  rcases bind_eq_ok.mp h with ⟨_, _, h⟩
  rcases bind_eq_ok.mp h with ⟨_, _, h⟩
  rcases bind_eq_ok.mp h with ⟨_, _, h⟩
  rcases bind_eq_ok.mp h with ⟨_, _, h⟩
  rcases bind_eq_ok.mp h with ⟨_, _, h⟩
  rcases bind_eq_ok.mp h with ⟨_, _, h⟩
  rcases bind_eq_ok.mp h with ⟨recolor, hrecolor, h⟩
  dsimp only at h
  split at h
  case isTrue =>
      cases h
      exact ⟨recolor, hrecolor, rfl⟩
  case isFalse => exact absurd h failWith_ne_ok

/-- What is accepted becomes an edit as it stands, except for the times. -/
theorem VideoChanges.edit_of_check {changes : VideoChanges α} {edit : CheckedVideoEdit α}
    (h : changes.check = .ok edit) :
    checkTimeRange changes.startTime changes.endTime = .ok () ∧
      edit.toVideoEdit =
        { position := changes.position
          size := changes.size
          start := changes.startTime.map milliseconds
          stop := changes.endTime.map milliseconds
          autoplay := changes.autoplay
          mute := changes.mute } := by
  unfold VideoChanges.check at h
  rcases bind_eq_ok.mp h with ⟨_, _, h⟩
  rcases bind_eq_ok.mp h with ⟨_, _, h⟩
  rcases bind_eq_ok.mp h with ⟨_, htimes, h⟩
  dsimp only at h
  split at h
  case isTrue =>
      cases h
      exact ⟨htimes, rfl⟩
  case isFalse => exact absurd h failWith_ne_ok

end DeckTools
