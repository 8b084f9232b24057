import VisualNovel.Json.Encode
import VisualNovel.Json.Union
import VisualNovel.Stage.Basic

/-!
Commands as values of the data format. Each is an object whose field `op` tells its kind.
-/

namespace VisualNovel

open Json (Decoder Encode Fields Payload Record field)

def Position.record : Record Position :=
  .ofFields "struct Position" <|
    Point.mk <$> Fields.required "x" .single <*> Fields.required "y" .single

instance : Encode Position := ⟨fun p => .object (field "x" p.x ++ field "y" p.y)⟩

def CanvasSize.record : Record CanvasSize :=
  .ofFields "struct CanvasSize" <|
    Extent.mk <$> Fields.required "width" .single <*> Fields.required "height" .single

instance : Encode CanvasSize := ⟨fun c => .object (field "width" c.width ++ field "height" c.height)⟩

def Duration.record : Record Duration where
  title := "struct Duration"
  fields :=
    (Prod.mk <$> Fields.required "secs" .word64 <*> Fields.required "nanos" .word32).andThen
      fun (secs, nanos) => (Duration.ofSeconds? secs nanos).elim (.error .durationOverflow) .ok
  lengthTitle := "struct Duration"
  closed := true

instance : Encode Duration :=
  ⟨fun d => .object (field "secs" d.seconds ++ field "nanos" d.subsecond)⟩

def Fade.decoder : Decoder Fade :=
  Json.Named.decoder ⟨[("None", .unit .none), ("In", .newtype (Duration.record.decoder.map .fadeIn)),
    ("Out", .newtype (Duration.record.decoder.map .fadeOut))]⟩

instance : Encode Fade :=
  ⟨fun
    | .none => .string "None"
    | .fadeIn d => .object (field "In" d)
    | .fadeOut d => .object (field "Out" d)⟩

instance : Encode PlacedImage :=
  ⟨fun i => .object (field "key" i.key ++ field "at" i.position ++ field "fade" i.fade)⟩

def ButtonRole.name : ButtonRole → String
  | .choice => "Choice"
  | .toggle => "Toggle"
  | .confirm => "Confirm"

def ButtonRole.decoder : Decoder ButtonRole :=
  Json.Named.decoder ⟨[.choice, .toggle, .confirm].map fun r => (ButtonRole.name r, .unit r)⟩

def ButtonState.decoder : Decoder ButtonState :=
  Json.Named.decoder ⟨[.idle, .selected].map fun s => (ButtonState.name s, .unit s)⟩

instance : Encode ButtonState := ⟨fun s => .string s.name⟩

def Button.record : Record Button :=
  .ofFields "struct ButtonSpec" <|
    (fun id role label center width height => ⟨id, role, label, ⟨center, ⟨width, height⟩⟩⟩)
      <$> Fields.required "id" .index <*> Fields.required "role" ButtonRole.decoder
      <*> Fields.required "label" .string <*> Fields.required "center" Position.record.decoder
      <*> Fields.required "width" .single <*> Fields.required "height" .single

instance : Encode Button :=
  ⟨fun b => .object <|
    field "id" b.id ++ field "role" b.role.name ++ field "label" b.label
      ++ field "center" b.box.center ++ field "width" b.box.extent.width
      ++ field "height" b.box.extent.height⟩

def WebLinkView.record : Record WebLinkView :=
  .ofFields "struct WebLinkView" <|
    WebLinkView.mk <$> Fields.required "url" .string <*> Fields.required "text" .string
      <*> Fields.required "target" .string

instance : Encode WebLinkView :=
  ⟨fun l => .object (field "url" l.url ++ field "text" l.text ++ field "target" l.target)⟩

namespace Command

def op : Command → String
  | .setBackground _ _ _ => "set_background"
  | .clearBackground => "clear_background"
  | .setFrame _ _ => "set_frame"
  | .addForeground _ _ => "add_foreground"
  | .clearForeground => "clear_foreground"
  | .setActorName _ _ => "set_actor_name"
  | .clearActorName => "clear_actor_name"
  | .setDialogText _ _ => "set_dialog_text"
  | .clearDialogText => "clear_dialog_text"
  | .addButton _ => "add_button"
  | .setButtonState _ _ => "set_button_state"
  | .clearButtons => "clear_buttons"
  | .playSound _ _ => "play_sound"
  | .stopSound _ => "stop_sound"
  | .showWebLink _ => "show_web_link"
  | .hideWebLink => "hide_web_link"
  | .setAdvanceEnabled _ => "set_advance_enabled"

def variant (name : String) (fields : Fields Command) : Payload Command :=
  .record (.ofFields ("struct variant SurfaceCommand::" ++ name) fields)

/-- The kinds of commands with what each holds; how a text is filled is not written down. -/
def payloads : List (String × Payload Command) :=
  [("set_background", variant "SetBackground" <|
      .setBackground <$> Fields.required "key" .string
        <*> Fields.required "at" Position.record.decoder <*> Fields.required "fade" Fade.decoder),
    ("clear_background", .unit .clearBackground),
    ("set_frame", variant "SetFrame" <|
      .setFrame <$> Fields.required "key" .string
        <*> Fields.required "at" Position.record.decoder),
    ("add_foreground", variant "AddForeground" <|
      .addForeground <$> Fields.required "key" .string
        <*> Fields.required "at" Position.record.decoder),
    ("clear_foreground", .unit .clearForeground),
    ("set_actor_name", variant "SetActorName" <|
      (.setActorName · {}) <$> Fields.required "name" .string),
    ("clear_actor_name", .unit .clearActorName),
    ("set_dialog_text", variant "SetDialogText" <|
      (.setDialogText · {}) <$> Fields.required "text" .string),
    ("clear_dialog_text", .unit .clearDialogText),
    ("add_button", variant "AddButton" <|
      .addButton <$> Fields.required "button" Button.record.decoder),
    ("set_button_state", variant "SetButtonState" <|
      .setButtonState <$> Fields.required "id" .index
        <*> Fields.required "state" ButtonState.decoder),
    ("clear_buttons", .unit .clearButtons),
    ("play_sound", variant "PlaySound" <|
      .playSound <$> Fields.required "key" .string <*> Fields.required "looping" .bool),
    ("stop_sound", variant "StopSound" <| .stopSound <$> Fields.required "key" .string),
    ("show_web_link", variant "ShowWebLink" <|
      .showWebLink <$> Fields.required "link" WebLinkView.record.decoder),
    ("hide_web_link", .unit .hideWebLink),
    ("set_advance_enabled", variant "SetAdvanceEnabled" <|
      .setAdvanceEnabled <$> Fields.required "enabled" .bool)]

def decoder : Decoder Command :=
  Json.Tagged.decoder {
    tag := "op"
    title := "internally tagged enum SurfaceCommand"
    payload := fun name =>
      match payloads.lookup name with
      | some payload => .ok payload
      | none => .error (.unknownVariant name (payloads.map (·.1))) }

def fields : Command → List (String × Json)
  | .setBackground key position fade =>
    field "key" key ++ field "at" position ++ field "fade" fade
  | .setFrame key position => field "key" key ++ field "at" position
  | .addForeground key position => field "key" key ++ field "at" position
  | .setActorName name _ => field "name" name
  | .setDialogText text _ => field "text" text
  | .addButton button => field "button" button
  | .setButtonState id state => field "id" id ++ field "state" state
  | .playSound key looping => field "key" key ++ field "looping" looping
  | .stopSound key => field "key" key
  | .showWebLink link => field "link" link
  | .setAdvanceEnabled enabled => field "enabled" enabled
  | _ => []

instance : Encode Command := ⟨fun c => .object (field "op" c.op ++ c.fields)⟩

end Command

end VisualNovel
