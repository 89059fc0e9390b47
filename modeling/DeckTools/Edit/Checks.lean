import DeckTools.Edit.Changes
import DeckTools.Text.Ascii
import DeckTools.Text.Blank
import DeckTools.Text.Occurrence
import DeckTools.ToolError

/-!
# Checking changes

Every check comes before any call to a service.  Fields are checked in a fixed
order, so of several faults the one of the first field is reported.
-/

namespace DeckTools

variable {α : Type} [Scalar α]

/-! ## Geometry -/

def checkCoordinate (name : String) (value : α) : Except ToolError Unit :=
  if !Scalar.isFinite value || Scalar.lt value (Scalar.ofInt 0) then
    failWith .invalidPosition
      (name ++ " must be a non-negative number of points, got " ++ Scalar.text value)
  else .ok ()

def Position.check (position : Position α) : Except ToolError Unit := do
  checkCoordinate "x" position.x
  checkCoordinate "y" position.y

def checkExtent (name : String) (value : Option α) : Except ToolError Unit :=
  match value with
  | none => .ok ()
  | some value =>
      if !Scalar.isFinite value || Scalar.le value (Scalar.ofInt 0) then
        failWith .invalidSize
          (name ++ " must be greater than 0 points, got " ++ Scalar.text value)
      else .ok ()

def TargetSize.check (size : TargetSize α) : Except ToolError Unit := do
  if size.isEmpty then failWith .invalidSize "size must set width and/or height"
  checkExtent "width" size.width
  checkExtent "height" size.height

/-! ## Image properties -/

def isBetween (low high : Int) (value : α) : Bool :=
  Scalar.isFinite value && Scalar.le (Scalar.ofInt low) value &&
    Scalar.le value (Scalar.ofInt high)

def checkLevel (kind : ToolErrorKind) (name : String) (low high : Int) (value : α) :
    Except ToolError Unit :=
  if isBetween low high value then .ok ()
  else
    failWith kind
      (name ++ " must be between " ++ Text.intText low ++ " and " ++ Text.intText high ++
        ", got " ++ Scalar.text value)

def checkBrightness (value : α) : Except ToolError Unit :=
  checkLevel .invalidBrightness "brightness" (-1) 1 value

def checkContrast (value : α) : Except ToolError Unit :=
  checkLevel .invalidContrast "contrast" (-1) 1 value

def checkTransparency (value : α) : Except ToolError Unit :=
  checkLevel .invalidTransparency "transparency" 0 1 value

def checkEdge (name : String) (value : Option α) : Except ToolError Unit :=
  match value with
  | none => .ok ()
  | some value => checkLevel .invalidCrop (name ++ " offset") 0 1 value

def checkOpposite (names : String) (a b : Option α) : Except ToolError Unit :=
  if Scalar.le (Scalar.ofInt 1) (a.getD (Scalar.ofInt 0) + b.getD (Scalar.ofInt 0)) then
    failWith .invalidCrop (names ++ " offsets must leave part of the image visible")
  else .ok ()

def Crop.check (crop : Crop α) : Except ToolError Unit := do
  if crop.isEmpty then
    failWith .invalidCrop "crop must set at least one of left, right, top, bottom"
  checkEdge "left" crop.left
  checkEdge "right" crop.right
  checkEdge "top" crop.top
  checkEdge "bottom" crop.bottom
  checkOpposite "left + right" crop.left crop.right
  checkOpposite "top + bottom" crop.top crop.bottom

def namedPresets : List String :=
  ["GRAYSCALE", "SEPIA", "NEGATIVE"]

def presetStep? (name : List Char) : Option (List Char) :=
  match Text.dropStart? "LIGHT".toList name with
  | some step => some step
  | none => Text.dropStart? "DARK".toList name

/-- A step from 1 to 10; a plus sign may stand before it. -/
def isPresetStep (step : List Char) : Bool :=
  match Text.unsigned? step with
  | some n => 1 ≤ n && n ≤ 10 && step.head? != some '0'
  | none => false

def isPreset (name : String) : Bool :=
  namedPresets.contains name ||
    (match presetStep? name.toList with
      | some step => isPresetStep step
      | none => false)

def Recolor.ofText (raw : String) : Except ToolError Recolor :=
  let name := Text.asciiUpper (Text.trim raw)
  if name == "NONE" then .ok .clear
  else if isPreset name then .ok (.preset name)
  else
    failWith .invalidRecolor
      ("'" ++ raw ++ "' is not a recolor preset (none, grayscale, sepia, negative, " ++
        "light1-light10, dark1-dark10)")

/-! ## Playback -/

def checkTime (name : String) (value : Option α) : Except ToolError Unit :=
  match value with
  | none => .ok ()
  | some value =>
      if !Scalar.isFinite value || Scalar.lt value (Scalar.ofInt 0) then
        failWith .invalidTimeRange
          (name ++ " must be a non-negative number of seconds, got " ++ Scalar.text value)
      else .ok ()

def checkTimeRange (start stop : Option α) : Except ToolError Unit := do
  checkTime "start_time" start
  checkTime "end_time" stop
  match start, stop with
  | some start, some stop =>
      if Scalar.lt stop start then
        failWith .invalidTimeRange
          ("end_time (" ++ Scalar.text stop ++ ") must not be before start_time (" ++
            Scalar.text start ++ ")")
      else .ok ()
  | _, _ => .ok ()

def milliseconds (seconds : α) : Nat :=
  Scalar.toCount (seconds * Scalar.ofInt 1000)

/-! ## Whole changes -/

def Passes {β : Type} (check : β -> Except ToolError Unit) (given : Option β) : Prop :=
  forall value, given = some value -> check value = .ok ()

/-- Check a value that may be missing, and keep the evidence. -/
def checkGiven {β : Type} (check : β -> Except ToolError Unit) :
    (given : Option β) -> Except ToolError (PLift (Passes check given))
  | none => .ok ⟨fun _ hvalue => nomatch hvalue⟩
  | some value =>
      match hcheck : check value with
      | .ok () => .ok ⟨fun _ hvalue => Option.some.inj hvalue ▸ hcheck⟩
      | .error e => .error e

/-- An edit of an image that sets something, with whatever it sets in range. -/
structure CheckedImageEdit (α : Type) [Scalar α] extends ImageEdit α where
  position_passes : Passes Position.check position
  size_passes : Passes TargetSize.check size
  brightness_passes : Passes checkBrightness brightness
  contrast_passes : Passes checkContrast contrast
  transparency_passes : Passes checkTransparency transparency
  crop_passes : Passes Crop.check crop
  changes : (toImageEdit.changesTransform || toImageEdit.changesProperties) = true

def ImageChanges.check (changes : ImageChanges α) : Except ToolError (CheckedImageEdit α) := do
  let position <- checkGiven Position.check changes.position
  let size <- checkGiven TargetSize.check changes.size
  let brightness <- checkGiven checkBrightness changes.brightness
  let contrast <- checkGiven checkContrast changes.contrast
  let transparency <- checkGiven checkTransparency changes.transparency
  let crop <- checkGiven Crop.check changes.crop
  let recolor <- changes.recolor.mapM Recolor.ofText
  let edit : ImageEdit α :=
    { position := changes.position
      size := changes.size
      brightness := changes.brightness
      contrast := changes.contrast
      transparency := changes.transparency
      crop := changes.crop
      recolor }
  if hchanges : (edit.changesTransform || edit.changesProperties) = true then
    .ok
      { toImageEdit := edit
        position_passes := position.down
        size_passes := size.down
        brightness_passes := brightness.down
        contrast_passes := contrast.down
        transparency_passes := transparency.down
        crop_passes := crop.down
        changes := hchanges }
  else
    failWith .noPropertiesToModify
      ("properties must set at least one of position, size, brightness, contrast, " ++
        "transparency, crop, recolor")

/-- An edit of a video that sets something, with the geometry it sets in range. -/
structure CheckedVideoEdit (α : Type) [Scalar α] extends VideoEdit α where
  position_passes : Passes Position.check position
  size_passes : Passes TargetSize.check size
  changes : (toVideoEdit.changesTransform || toVideoEdit.changesProperties) = true

def VideoChanges.check (changes : VideoChanges α) : Except ToolError (CheckedVideoEdit α) := do
  let position <- checkGiven Position.check changes.position
  let size <- checkGiven TargetSize.check changes.size
  checkTimeRange changes.startTime changes.endTime
  let edit : VideoEdit α :=
    { position := changes.position
      size := changes.size
      start := changes.startTime.map milliseconds
      stop := changes.endTime.map milliseconds
      autoplay := changes.autoplay
      mute := changes.mute }
  if hchanges : (edit.changesTransform || edit.changesProperties) = true then
    .ok
      { toVideoEdit := edit
        position_passes := position.down
        size_passes := size.down
        changes := hchanges }
  else
    failWith .noPropertiesToModify
      ("properties must set at least one of position, size, start_time, end_time, " ++
        "autoplay, mute")

end DeckTools
