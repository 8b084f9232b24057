import VisualNovel.Json.Printer
import VisualNovel.Registry
import VisualNovel.Snapshot
import VisualNovel.Text.Utf8

namespace VisualNovel.Storage

open Json (Decoder Encode encode)

inductive Error where
  | notText (reason : Text.IllFormed)
  | malformed (refusal : Json.Refusal)
deriving Repr, BEq, DecidableEq

def Error.message : Error → String
  | .notText e => e.message
  | .malformed r => r.message

def save {α : Type} [Encode α] (a : α) : ByteArray := (encode a).pretty.toUTF8

def load {α : Type} (d : Decoder α) (bytes : ByteArray) : Except Error α := do
  let text ← (Text.Utf8.decode bytes).mapError .notText
  (d.decode text).mapError .malformed

def saveRegistry (r : Registry) : ByteArray := save r

def loadRegistry (bytes : ByteArray) : Except Error Registry := load Registry.record.decoder bytes

def saveSnapshot (s : Snapshot) : ByteArray := save s

def loadSnapshot (bytes : ByteArray) : Except Error Snapshot := load Snapshot.record.decoder bytes

end VisualNovel.Storage
