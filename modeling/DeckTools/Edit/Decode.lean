import DeckTools.Edit.Changes
import DeckTools.Json.Decode

/-!
# Decoding changes

Positions, sizes and changes as callers write them.
-/

namespace DeckTools

open Fields

def decodePosition : Decoder (Position Float) :=
  Decoder.record "Position" <|
    Position.mk <$> required "x" Decoder.double <*> required "y" Decoder.double

def decodeTargetSize : Decoder (TargetSize Float) :=
  Decoder.record "SizeInput" <|
    TargetSize.mk <$> optional "width" Decoder.double <*> optional "height" Decoder.double

def decodeCrop : Decoder (Crop Float) :=
  Decoder.record "Crop" <|
    Crop.mk <$> optional "left" Decoder.double <*> optional "right" Decoder.double <*>
      optional "top" Decoder.double <*> optional "bottom" Decoder.double

def decodeImageChanges : Decoder (ImageChanges Float) :=
  Decoder.record "ImageChanges" <|
    ImageChanges.mk <$> optional "position" decodePosition <*>
      optional "size" decodeTargetSize <*>
      optional "brightness" Decoder.double <*>
      optional "contrast" Decoder.double <*>
      optional "transparency" Decoder.double <*>
      optional "crop" decodeCrop <*>
      optional "recolor" Decoder.text

def ImageChanges.none : ImageChanges Float :=
  ⟨Option.none, Option.none, Option.none, Option.none, Option.none, Option.none, Option.none⟩

def decodeVideoChanges : Decoder (VideoChanges Float) :=
  Decoder.record "VideoChanges" <|
    VideoChanges.mk <$> optional "position" decodePosition <*>
      optional "size" decodeTargetSize <*>
      optional "start_time" Decoder.double <*>
      optional "end_time" Decoder.double <*>
      optional "autoplay" Decoder.boolean <*>
      optional "mute" Decoder.boolean

def VideoChanges.none : VideoChanges Float :=
  ⟨Option.none, Option.none, Option.none, Option.none, Option.none, Option.none⟩

end DeckTools
