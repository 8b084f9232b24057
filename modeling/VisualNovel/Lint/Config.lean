import VisualNovel.Json.Encode
import VisualNovel.Json.Record

namespace VisualNovel.Lint

open Json (Encode Fields Record field)

structure ReferencesConfig where
  enabled : Bool := true
  /-- Whether keys have to name timelines of the registry. -/
  checkTimelines : Bool := true
  /-- Whether images and sounds have to be listed for loading. -/
  checkAssets : Bool := true
deriving Repr, BEq, DecidableEq

structure QualityConfig where
  enabled : Bool := true
  /-- The greatest number of characters of a line. -/
  maxTextLength : Nat := 200
deriving Repr, BEq, DecidableEq

structure FlowConfig where
  enabled : Bool := true
  /-- The timeline that is played first. -/
  entry : String := "start"
  checkOrphans : Bool := true
deriving Repr, BEq, DecidableEq

structure Config where
  references : ReferencesConfig := {}
  quality : QualityConfig := {}
  flow : FlowConfig := {}
deriving Repr, BEq, DecidableEq

def ReferencesConfig.record : Record ReferencesConfig :=
  .ofFields "struct ReferencesConfig" <|
    ReferencesConfig.mk <$> Fields.defaulted "enabled" .bool true
      <*> Fields.defaulted "check_timelines" .bool true
      <*> Fields.defaulted "check_assets" .bool true

instance : Encode ReferencesConfig :=
  ⟨fun c => .object <|
    field "enabled" c.enabled ++ field "check_timelines" c.checkTimelines
      ++ field "check_assets" c.checkAssets⟩

def QualityConfig.record : Record QualityConfig :=
  .ofFields "struct QualityConfig" <|
    QualityConfig.mk <$> Fields.defaulted "enabled" .bool true
      <*> Fields.defaulted "max_text_length" .index 200

instance : Encode QualityConfig :=
  ⟨fun c => .object (field "enabled" c.enabled ++ field "max_text_length" c.maxTextLength)⟩

def FlowConfig.record : Record FlowConfig :=
  .ofFields "struct FlowConfig" <|
    FlowConfig.mk <$> Fields.defaulted "enabled" .bool true
      <*> Fields.defaulted "entry" .string "start"
      <*> Fields.defaulted "check_orphans" .bool true

instance : Encode FlowConfig :=
  ⟨fun c => .object <|
    field "enabled" c.enabled ++ field "entry" c.entry ++ field "check_orphans" c.checkOrphans⟩

def Config.record : Record Config :=
  .ofFields "struct LintConfig" <|
    Config.mk <$> Fields.defaulted "references" ReferencesConfig.record.decoder {}
      <*> Fields.defaulted "quality" QualityConfig.record.decoder {}
      <*> Fields.defaulted "flow" FlowConfig.record.decoder {}

instance : Encode Config :=
  ⟨fun c => .object <|
    field "references" c.references ++ field "quality" c.quality ++ field "flow" c.flow⟩

end VisualNovel.Lint
