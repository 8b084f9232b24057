import VisualNovel.Json.Encode
import VisualNovel.Json.Printer
import VisualNovel.Json.Union

namespace VisualNovel

open Json (Decoder Encode Fields field)

inductive Navigation where
  | restart (timeline : String)
  | scene (name : String) (data : Option Json)
deriving Repr, BEq

namespace Navigation

def decoder : Decoder Navigation :=
  Json.Named.decoder ⟨[
    ("Restart", .record <| .ofFields "struct variant Navigation::Restart" <|
      .restart <$> Fields.required "timeline" .string),
    ("Scene", .record <| .ofFields "struct variant Navigation::Scene" <|
      .scene <$> Fields.required "scene" .string <*> Fields.nullable "data" .any)]⟩

instance : Encode Navigation :=
  ⟨fun
    | .restart timeline => .object (field "Restart" (Json.object (field "timeline" timeline)))
    | .scene name data =>
      .object (field "Scene" (Json.object (field "scene" name ++ field "data" data)))⟩

def shown : Navigation → String
  | .restart timeline => "Restart \x7b timeline: " ++ Text.quote timeline ++ " \x7d"
  | .scene name data =>
    "Scene \x7b scene: " ++ Text.quote name ++ ", data: "
      ++ data.elim "None" (fun d => "Some(" ++ d.shown ++ ")") ++ " \x7d"

end Navigation

/-- The scene in which timelines are played; a name in its data tells which one. -/
def mainScene : String := "main"

def endingScene : String := "ending"

def defaultTimeline : String := "start"

inductive Route where
  | restart (timeline : String)
  | ending
  /-- A scene that is not provided here. -/
  | exit (scene : String) (data : Option Json)
deriving Repr, BEq

namespace Route

def namedTimeline? (data : Option Json) : Option String :=
  data.bind (Json.field? "id") |>.bind Json.string?

def ofNavigation : Navigation → Route
  | .restart timeline => .restart timeline
  | .scene name data =>
    if name = mainScene then .restart ((namedTimeline? data).getD defaultTimeline)
    else if name = endingScene then .ending
    else .exit name data

end Route

end VisualNovel
