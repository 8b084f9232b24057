import VisualNovel.Event.Basic
import VisualNovel.Lint.Issue

namespace VisualNovel.Lint

def when (holds : Bool) (finding : Finding) : List Finding := if holds then [finding] else []

def checkSelection (set : MultiChoiceSet) : List Finding :=
  let options := set.choices.length
  (match set.maxSelect with
    | some max => when (max < set.minSelect) (.minAboveMax set.minSelect max)
    | none => [])
  ++ when (options < set.minSelect) (.minAboveOptions set.minSelect options)
  ++ when (!set.choices.any MultiChoice.correct) .nothingCorrect

def checkQuality (maxTextLength : Nat) (event : Event) : List Finding :=
  match event with
  | .choice options =>
    when options.isEmpty (.noOptions event.tag)
      ++ when (options.any (·.key.isEmpty)) .emptyChoiceKey
  | .multiChoice set =>
    (if set.choices.isEmpty then [.noOptions event.tag] else checkSelection set)
      ++ when (set.correctKey.isEmpty || set.incorrectKey.isEmpty) .emptyDestination
  | .dialog line =>
    when (maxTextLength < line.text.length) (.longText line.text.length maxTextLength)
  | .unknown => [.unknownEvent]
  | _ => []

end VisualNovel.Lint
