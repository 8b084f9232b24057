import VisualNovel.Json.Encode
import VisualNovel.Json.Record

namespace VisualNovel

open Json (Encode Fields Record field)

structure Snapshot where
  timelineKey : Option String
  index : Nat
deriving Repr, BEq, DecidableEq

namespace Snapshot

def record : Record Snapshot :=
  .ofFields "struct CursorSnapshot" <|
    Snapshot.mk <$> Fields.nullable "timeline_key" .string <*> Fields.required "index" .index

instance : Encode Snapshot :=
  ⟨fun s => .object (field "timeline_key" s.timelineKey ++ field "index" s.index)⟩

end Snapshot

end VisualNovel
