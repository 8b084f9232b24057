import VisualNovel.Lint.Config
import VisualNovel.Lint.Flow
import VisualNovel.Lint.Quality

namespace VisualNovel.Lint

def onlyIf (holds : Bool) (issues : List Issue) : List Issue := if holds then issues else []

def check (config : Config) (r : Registry) : Report :=
  ⟨onlyIf config.references.enabled
      (onlyIf config.references.checkTimelines (inEvents r (checkTargets r))
        ++ onlyIf config.references.checkAssets (inEvents r (checkAsset r)))
    ++ onlyIf config.quality.enabled (inEvents r (checkQuality config.quality.maxTextLength))
    ++ onlyIf config.flow.enabled
      (checkEventFlow r
        ++ onlyIf config.flow.checkOrphans (checkTimelineFlow r config.flow.entry))⟩

end VisualNovel.Lint
