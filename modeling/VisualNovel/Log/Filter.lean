import VisualNovel.Json.Union

namespace VisualNovel.Log

open Json (Decoder Fields)

inductive Level where
  | trace
  | debug
  | info
  | warn
deriving Repr, BEq, DecidableEq

def Level.name : Level → String
  | .trace => "TRACE"
  | .debug => "DEBUG"
  | .info => "INFO"
  | .warn => "WARN"

inductive Category where
  /-- The cursor and the events that it meets. -/
  | engine
  /-- Waiting, pointer downs and navigation. -/
  | flow
  | choice
  | audio
  | layers
deriving Repr, BEq, DecidableEq

namespace Category

def all : List Category := [.engine, .flow, .choice, .audio, .layers]

def name : Category → String
  | .engine => "Engine"
  | .flow => "Flow"
  | .choice => "Choice"
  | .audio => "Audio"
  | .layers => "Layers"

def target : Category → String
  | .engine => "emaki::engine"
  | .flow => "emaki::flow"
  | .choice => "emaki::choice"
  | .audio => "emaki::audio"
  | .layers => "emaki::layers"

def decoder : Decoder Category :=
  Json.Named.decoder ⟨all.map fun c => (c.name, .unit c)⟩

end Category

structure Filter where
  enabled : Bool
  categories : List Category
deriving Repr, BEq, DecidableEq

namespace Filter

/-- No records are made: the variable `EMAKI_DEBUG`, which asks for them, is taken as unset. -/
def default : Filter := ⟨false, [.engine, .flow, .choice]⟩

instance : Inhabited Filter := ⟨default⟩

def verbose : Filter := ⟨true, Category.all⟩

def lists (f : Filter) (c : Category) : Bool := f.categories.contains c

def allows (f : Filter) (c : Category) : Bool := f.enabled && f.lists c

def record : Json.Record Filter :=
  .ofFields "struct DebugConfig" <|
    Filter.mk <$> Fields.required "enabled" .bool
      <*> Fields.required "categories" Category.decoder.list

end Filter

end VisualNovel.Log
