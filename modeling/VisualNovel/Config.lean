import VisualNovel.Duration
import VisualNovel.Error
import VisualNovel.Geometry
import VisualNovel.Json.Encode
import VisualNovel.Log.Filter

namespace VisualNovel

open Json (Encode Fields Record field)

structure GateLayout (α : Type) where
  choiceButtonHeight : α
  choiceButtonMargin : α
  multiButtonHeight : α
  multiButtonMargin : α
  /-- The height that is kept free below the buttons for the dialog. -/
  dialogReserve : α
  confirmWidth : α
  confirmHeight : α
  confirmLabel : String
deriving Repr, BEq

namespace GateLayout

def default {α : Type} [Scalar α] : GateLayout α where
  choiceButtonHeight := Scalar.ofNat 40
  choiceButtonMargin := Scalar.ofNat 40
  multiButtonHeight := Scalar.ofNat 80
  multiButtonMargin := Scalar.ofNat 10
  dialogReserve := Scalar.ofNat 180
  confirmWidth := Scalar.ofNat 240
  confirmHeight := Scalar.ofNat 40
  confirmLabel := "Confirm"

def record : Record (GateLayout Float32) :=
  let d : GateLayout Float32 := default
  .ofFields "struct GateLayout" <|
    GateLayout.mk <$> Fields.defaulted "choice_button_height" .single d.choiceButtonHeight
      <*> Fields.defaulted "choice_button_margin" .single d.choiceButtonMargin
      <*> Fields.defaulted "multi_button_height" .single d.multiButtonHeight
      <*> Fields.defaulted "multi_button_margin" .single d.multiButtonMargin
      <*> Fields.defaulted "dialog_reserve" .single d.dialogReserve
      <*> Fields.defaulted "confirm_width" .single d.confirmWidth
      <*> Fields.defaulted "confirm_height" .single d.confirmHeight
      <*> Fields.defaulted "confirm_label" .string d.confirmLabel

instance : Encode (GateLayout Float32) :=
  ⟨fun l => .object <|
    field "choice_button_height" l.choiceButtonHeight
      ++ field "choice_button_margin" l.choiceButtonMargin
      ++ field "multi_button_height" l.multiButtonHeight
      ++ field "multi_button_margin" l.multiButtonMargin
      ++ field "dialog_reserve" l.dialogReserve
      ++ field "confirm_width" l.confirmWidth
      ++ field "confirm_height" l.confirmHeight
      ++ field "confirm_label" l.confirmLabel⟩

end GateLayout

structure Config where
  canvas : CanvasSize
  /-- Milliseconds between two characters of a line. -/
  typingIntervalMs : Nat
  /-- Milliseconds that a background takes to fade. -/
  fadeDurationMs : Nat
  layout : GateLayout Float32
  /-- Where the shuffling of options begins. -/
  seed : Option Nat
  log : Log.Filter := .default
deriving Repr, BEq

namespace Config

def default : Config := ⟨defaultCanvas, 50, 1000, .default, none, .default⟩

instance : Inhabited Config := ⟨default⟩

def typingInterval (c : Config) : Duration := .ofMillis c.typingIntervalMs

def fadeDuration (c : Config) : Duration := .ofMillis c.fadeDurationMs

def record : Record Config :=
  .ofFields "struct PlayerConfig" <|
    (fun w h typing fade layout seed => ⟨⟨w, h⟩, typing, fade, layout, seed, .default⟩)
      <$> Fields.defaulted "canvas_width" .single default.canvas.width
      <*> Fields.defaulted "canvas_height" .single default.canvas.height
      <*> Fields.defaulted "typing_interval_ms" .word64 default.typingIntervalMs
      <*> Fields.defaulted "fade_duration_ms" .word64 default.fadeDurationMs
      <*> Fields.defaulted "layout" GateLayout.record.decoder default.layout
      <*> Fields.optional "seed" .word64

instance : Encode Config :=
  ⟨fun c => .object <|
    field "canvas_width" c.canvas.width ++ field "canvas_height" c.canvas.height
      ++ field "typing_interval_ms" c.typingIntervalMs
      ++ field "fade_duration_ms" c.fadeDurationMs
      ++ field "layout" c.layout ++ field "seed" c.seed⟩

def ofText (text : String) : Except LoadError Config :=
  (record.decoder.decode text).mapError .malformed

end Config

end VisualNovel
