import VisualNovel.Error
import VisualNovel.Event.Format

namespace VisualNovel

open Json (Decoder Encode Fields Record field)

structure Registry where
  timelines : Dict Timeline := ∅
  images : Dict String := ∅
  audio : Dict String := ∅
deriving Repr, BEq, Inhabited

namespace Registry

def insert (r : Registry) (key : String) (timeline : Timeline) : Registry :=
  { r with timelines := r.timelines.insert key timeline }

def find? (r : Registry) (key : String) : Option Timeline := r.timelines.get? key

def get (r : Registry) (key : String) : Except LoadError Timeline :=
  match r.find? key with
  | some timeline => .ok timeline
  | none => .error (.unknownTimeline key)

def contains (r : Registry) (key : String) : Bool := r.timelines.contains key

def keys (r : Registry) : List String := r.timelines.keys

def record : Record Registry :=
  .ofFields "struct TimelineRegistry" <|
    Registry.mk <$> Fields.required "timelines" Timeline.decoder.dict
      <*> Fields.defaulted "images" Decoder.string.dict ∅
      <*> Fields.defaulted "audio" Decoder.string.dict ∅

instance : Encode Registry :=
  ⟨fun r => .object (field "timelines" r.timelines ++ field "images" r.images ++ field "audio" r.audio)⟩

def ofText (text : String) : Except LoadError Registry :=
  (record.decoder.decode text).mapError .malformed

end Registry

end VisualNovel
