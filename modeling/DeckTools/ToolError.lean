import DeckTools.Json.Value

/-!
# Tool errors

Every failure of a tool has a kind, which programs can rely on, and a detail for
people.  Kinds for faults of the request itself are the invalid-input kinds.
-/

namespace DeckTools

inductive ToolErrorKind where
  | invalidParameters
  | invalidPresentationId
  | invalidObjectId
  | invalidSlideReference
  | invalidImageData
  | invalidSize
  | invalidPosition
  | invalidCrop
  | invalidBrightness
  | invalidContrast
  | invalidTransparency
  | invalidRecolor
  | invalidTimeRange
  | invalidTransitionType
  | invalidTransitionDuration
  | invalidTitle
  | invalidLanguage
  | invalidSearchOptions
  | emptyQuery
  | noPropertiesToModify
  | noObjectsSpecified
  | invalidObjectType
  | invalidObjectState
  | presentationNotFound
  | slideNotFound
  | objectNotFound
  | sourceNotFound
  | folderNotFound
  | accessDenied
  | serviceError
  | uploadFailed
  | createFailed
  | copyFailed
  | exportFailed
  | deleteFailed
  | replaceFailed
  | modifyImageFailed
  | modifyVideoFailed
  | translateFailed
  | noTextToTranslate
  | transitionNotSupported
  deriving DecidableEq

namespace ToolErrorKind

def all : List ToolErrorKind :=
  [.invalidParameters, .invalidPresentationId, .invalidObjectId, .invalidSlideReference,
    .invalidImageData, .invalidSize, .invalidPosition, .invalidCrop, .invalidBrightness,
    .invalidContrast, .invalidTransparency, .invalidRecolor, .invalidTimeRange,
    .invalidTransitionType, .invalidTransitionDuration, .invalidTitle, .invalidLanguage,
    .invalidSearchOptions, .emptyQuery, .noPropertiesToModify, .noObjectsSpecified,
    .invalidObjectType, .invalidObjectState, .presentationNotFound, .slideNotFound,
    .objectNotFound, .sourceNotFound, .folderNotFound, .accessDenied, .serviceError,
    .uploadFailed, .createFailed, .copyFailed, .exportFailed, .deleteFailed,
    .replaceFailed, .modifyImageFailed, .modifyVideoFailed, .translateFailed,
    .noTextToTranslate, .transitionNotSupported]

def code : ToolErrorKind -> String
  | invalidParameters => "INVALID_PARAMETERS"
  | invalidPresentationId => "INVALID_PRESENTATION_ID"
  | invalidObjectId => "INVALID_OBJECT_ID"
  | invalidSlideReference => "INVALID_SLIDE_REFERENCE"
  | invalidImageData => "INVALID_IMAGE_DATA"
  | invalidSize => "INVALID_SIZE"
  | invalidPosition => "INVALID_POSITION"
  | invalidCrop => "INVALID_CROP"
  | invalidBrightness => "INVALID_BRIGHTNESS"
  | invalidContrast => "INVALID_CONTRAST"
  | invalidTransparency => "INVALID_TRANSPARENCY"
  | invalidRecolor => "INVALID_RECOLOR"
  | invalidTimeRange => "INVALID_TIME_RANGE"
  | invalidTransitionType => "INVALID_TRANSITION_TYPE"
  | invalidTransitionDuration => "INVALID_TRANSITION_DURATION"
  | invalidTitle => "INVALID_TITLE"
  | invalidLanguage => "INVALID_LANGUAGE"
  | invalidSearchOptions => "INVALID_SEARCH_OPTIONS"
  | emptyQuery => "EMPTY_QUERY"
  | noPropertiesToModify => "NO_PROPERTIES_TO_MODIFY"
  | noObjectsSpecified => "NO_OBJECTS_SPECIFIED"
  | invalidObjectType => "INVALID_OBJECT_TYPE"
  | invalidObjectState => "INVALID_OBJECT_STATE"
  | presentationNotFound => "PRESENTATION_NOT_FOUND"
  | slideNotFound => "SLIDE_NOT_FOUND"
  | objectNotFound => "OBJECT_NOT_FOUND"
  | sourceNotFound => "SOURCE_NOT_FOUND"
  | folderNotFound => "FOLDER_NOT_FOUND"
  | accessDenied => "ACCESS_DENIED"
  | serviceError => "SERVICE_ERROR"
  | uploadFailed => "UPLOAD_FAILED"
  | createFailed => "CREATE_FAILED"
  | copyFailed => "COPY_FAILED"
  | exportFailed => "EXPORT_FAILED"
  | deleteFailed => "DELETE_FAILED"
  | replaceFailed => "REPLACE_FAILED"
  | modifyImageFailed => "MODIFY_IMAGE_FAILED"
  | modifyVideoFailed => "MODIFY_VIDEO_FAILED"
  | translateFailed => "TRANSLATE_FAILED"
  | noTextToTranslate => "NO_TEXT_TO_TRANSLATE"
  | transitionNotSupported => "TRANSITION_NOT_SUPPORTED"

def heading : ToolErrorKind -> String
  | invalidParameters => "Invalid parameters"
  | invalidPresentationId => "Invalid presentation ID"
  | invalidObjectId => "Invalid object ID"
  | invalidSlideReference => "Invalid slide reference"
  | invalidImageData => "Invalid image data"
  | invalidSize => "Invalid size"
  | invalidPosition => "Invalid position"
  | invalidCrop => "Invalid crop"
  | invalidBrightness => "Invalid brightness"
  | invalidContrast => "Invalid contrast"
  | invalidTransparency => "Invalid transparency"
  | invalidRecolor => "Invalid recolor"
  | invalidTimeRange => "Invalid time range"
  | invalidTransitionType => "Invalid transition type"
  | invalidTransitionDuration => "Invalid transition duration"
  | invalidTitle => "Invalid title"
  | invalidLanguage => "Invalid language"
  | invalidSearchOptions => "Invalid search options"
  | emptyQuery => "Empty query"
  | noPropertiesToModify => "No properties to modify"
  | noObjectsSpecified => "No objects specified"
  | invalidObjectType => "Invalid object type"
  | invalidObjectState => "Invalid object state"
  | presentationNotFound => "Presentation not found"
  | slideNotFound => "Slide not found"
  | objectNotFound => "Object not found"
  | sourceNotFound => "Source not found"
  | folderNotFound => "Folder not found"
  | accessDenied => "Access denied"
  | serviceError => "Service error"
  | uploadFailed => "Upload failed"
  | createFailed => "Create failed"
  | copyFailed => "Copy failed"
  | exportFailed => "Export failed"
  | deleteFailed => "Delete failed"
  | replaceFailed => "Replace failed"
  | modifyImageFailed => "Modify image failed"
  | modifyVideoFailed => "Modify video failed"
  | translateFailed => "Translate failed"
  | noTextToTranslate => "No text to translate"
  | transitionNotSupported => "Transition not supported"

def isInvalidInput : ToolErrorKind -> Bool
  | invalidParameters => true
  | invalidPresentationId => true
  | invalidObjectId => true
  | invalidSlideReference => true
  | invalidImageData => true
  | invalidSize => true
  | invalidPosition => true
  | invalidCrop => true
  | invalidBrightness => true
  | invalidContrast => true
  | invalidTransparency => true
  | invalidRecolor => true
  | invalidTimeRange => true
  | invalidTransitionType => true
  | invalidTransitionDuration => true
  | invalidTitle => true
  | invalidLanguage => true
  | invalidSearchOptions => true
  | emptyQuery => true
  | noPropertiesToModify => true
  | noObjectsSpecified => true
  | invalidObjectType => true
  | invalidObjectState => true
  | _ => false

def ofCode? (code : String) : Option ToolErrorKind :=
  all.find? (fun kind => kind.code == code)

end ToolErrorKind

structure ToolError where
  kind : ToolErrorKind
  detail : String
  deriving DecidableEq

namespace ToolError

def message (e : ToolError) : String :=
  e.kind.heading ++ ": " ++ e.detail

def isInvalidInput (e : ToolError) : Bool :=
  e.kind.isInvalidInput

def toJson (e : ToolError) : Json :=
  Json.object [("kind", .str e.kind.code), ("detail", .str e.detail)]

end ToolError

def failWith {α : Type} (kind : ToolErrorKind) (detail : String) : Except ToolError α :=
  .error { kind, detail }

end DeckTools
