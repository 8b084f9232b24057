import VisualNovel.Event.Basic
import VisualNovel.Json.Encode
import VisualNovel.Json.Union

/-!
Events as values of the data format. Each is an object whose field `event` tells its kind; optional
fields without a value are left out when an event is written.
-/

namespace VisualNovel

open Json (Decoder Encode Fields Record encode field present)

def Choice.record : Record Choice :=
  .ofFields "struct Choice" <|
    Choice.mk <$> Fields.required "text" .string <*> Fields.required "key" .string

instance : Encode Choice := ⟨fun c => .object (field "text" c.text ++ field "key" c.key)⟩

def MultiChoice.record : Record MultiChoice :=
  .ofFields "struct MultiChoice" <|
    MultiChoice.mk <$> Fields.required "text" .string <*> Fields.required "correct" .bool
      <*> Fields.defaulted "contraindication" .bool false <*> Fields.optional "point" .double

def MultiChoice.fields (c : MultiChoice) : List (String × Json) :=
  field "text" c.text ++ field "correct" c.correct
    ++ (if c.contraindication then field "contraindication" true else [])
    ++ present "point" c.point

instance : Encode MultiChoice := ⟨fun c => .object c.fields⟩

def choicesRecord : Record (List Choice) :=
  .ofFields "struct ChoiceSet" <| Fields.required "choices" Choice.record.decoder.list

def MultiChoiceSet.record : Record MultiChoiceSet :=
  .ofFields "struct MultiChoiceSet" <|
    MultiChoiceSet.mk <$> Fields.required "choices" MultiChoice.record.decoder.list
      <*> Fields.required "correctKey" .string <*> Fields.required "incorrectKey" .string
      <*> Fields.defaulted "minSelect" .index 0 <*> Fields.optional "maxSelect" .index
      <*> Fields.defaulted "shuffle" .bool false

def MultiChoiceSet.fields (s : MultiChoiceSet) : List (String × Json) :=
  field "choices" s.choices ++ field "correctKey" s.correctKey
    ++ field "incorrectKey" s.incorrectKey ++ field "minSelect" s.minSelect
    ++ present "maxSelect" s.maxSelect ++ field "shuffle" s.shuffle

instance : Encode MultiChoiceSet := ⟨fun s => .object s.fields⟩

def DialogLine.record : Record DialogLine :=
  .ofFields "struct DialogLine" <|
    DialogLine.mk <$> Fields.required "text" .string
      <*> Fields.optional "actorName" .string ["actor_name"]
      <*> Fields.optional "textFillColor" .string <*> Fields.optional "textFillAlpha" .single
      <*> Fields.optional "actorFillColor" .string <*> Fields.optional "actorFillAlpha" .single

def DialogLine.fields (l : DialogLine) : List (String × Json) :=
  field "text" l.text ++ present "actorName" l.actorName
    ++ present "textFillColor" l.textFillColor
    ++ present "textFillAlpha" l.textFillAlpha
    ++ present "actorFillColor" l.actorFillColor
    ++ present "actorFillAlpha" l.actorFillAlpha

def Image.spec : Fields Image :=
  Image.mk <$> Fields.required "key" .string <*> Fields.optional "x" .single
    <*> Fields.optional "y" .single

def Image.fields (i : Image) : List (String × Json) :=
  field "key" i.key ++ present "x" i.x ++ present "y" i.y

def Background.record : Record Background :=
  .ofFields "struct BackgroundImage" <|
    Background.mk <$> Image.spec <*> Fields.optional "effect" .string

def Background.fields (b : Background) : List (String × Json) :=
  b.toImage.fields ++ present "effect" b.effect

def WebLink.record : Record WebLink :=
  .ofFields "struct WebLink" <|
    WebLink.mk <$> Fields.required "url" .string <*> Fields.optional "text" .string
      <*> Fields.optional "target" .string

def WebLink.fields (l : WebLink) : List (String × Json) :=
  field "url" l.url ++ present "text" l.text
    ++ present "target" l.target

def keyRecord (title : String) : Record String :=
  .ofFields title <| Fields.required "key" .string

def SceneJump.record : Record SceneJump :=
  .ofFields "struct SceneJump" <|
    SceneJump.mk <$> Fields.required "key" .string <*> Fields.optional "data" .any

def SceneJump.fields (j : SceneJump) : List (String × Json) :=
  field "key" j.key ++ present "data" j.data

def SoundCue.record : Record SoundCue :=
  .ofFields "struct SoundCue" <|
    SoundCue.mk <$> Fields.required "key" .string <*> Fields.defaulted "loop" .bool false

namespace Event

/-- What an event of a kind holds; an unknown kind holds nothing. -/
def payload : String → Json.Payload Event
  | "dialog" => .record (DialogLine.record.map .dialog)
  | "clear_dialog" => .unit .clearDialog
  | "set_background" => .record (Background.record.map .setBackground)
  | "clear_background" => .unit .clearBackground
  | "set_frame" => .record (.ofFields "struct FrameImage" (.setFrame <$> Image.spec))
  | "add_foreground" => .record (.ofFields "struct ForegroundImage" (.addForeground <$> Image.spec))
  | "clear_foreground" => .unit .clearForeground
  | "timeline_transition" => .record ((keyRecord "struct TimelineJump").map .timelineTransition)
  | "scene_transition" => .record (SceneJump.record.map .sceneTransition)
  | "choice" => .record (choicesRecord.map .choice)
  | "multi_choice" => .record (MultiChoiceSet.record.map .multiChoice)
  | "show_weblink" => .record (WebLink.record.map .showWebLink)
  | "hide_weblink" => .unit .hideWebLink
  | "play_sound" => .record (SoundCue.record.map .playSound)
  | "clear_sound" => .record ((keyRecord "struct SoundKey").map .clearSound)
  | _ => .unit .unknown

def format : Json.Tagged Event where
  tag := "event"
  title := "internally tagged enum Event"
  payload := fun name => .ok (payload name)

def decoder : Decoder Event := format.decoder

def fields : Event → List (String × Json)
  | .dialog line => line.fields
  | .setBackground image => image.fields
  | .setFrame image => image.fields
  | .addForeground image => image.fields
  | .timelineTransition key => field "key" key
  | .sceneTransition jump => jump.fields
  | .choice options => field "choices" options
  | .multiChoice set => set.fields
  | .showWebLink link => link.fields
  | .playSound cue => field "key" cue.key ++ field "loop" cue.looping
  | .clearSound key => field "key" key
  | _ => []

instance : Encode Event := ⟨fun event => .object (field "event" event.tag ++ event.fields)⟩

end Event

def Timeline.decoder : Decoder Timeline := Event.decoder.list

end VisualNovel
