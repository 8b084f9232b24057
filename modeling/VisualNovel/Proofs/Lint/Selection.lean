import VisualNovel.Proofs.Gate.Bounds
import VisualNovel.Proofs.Lint.Quality

namespace VisualNovel.Lint

variable {config : Config} {r : Registry}

theorem mem_inEvents_iff {find : Event → List Finding} {finding : Finding} {name : String}
    {index : Nat} : ⟨finding, name, some index⟩ ∈ inEvents r find ↔
      ∃ timeline e, r.find? name = some timeline ∧ timeline[index]? = some e ∧
        finding ∈ find e := by
  simp only [inEvents, List.mem_flatMap, List.mem_map]
  constructor
  · rintro ⟨⟨_, timeline⟩, listed, ⟨e, _⟩, placed, _, found, same⟩
    cases same
    exact ⟨timeline, e, Dict.get?_of_mem listed, List.mk_mem_zipIdx_iff_getElem?.1 placed, found⟩
  · rintro ⟨timeline, e, registered, there, found⟩
    exact ⟨(name, timeline), Dict.mem_of_get? registered, (e, index),
      List.mk_mem_zipIdx_iff_getElem?.2 there, finding, found, rfl⟩

theorem category_of_unreachableEvents {timeline : Timeline} {first : Nat} {finding : Finding}
    (told : unreachableEvents? timeline = some (first, finding)) : finding.category = "flow" := by
  unfold unreachableEvents? at told
  obtain ⟨exit, -, told⟩ := Option.bind_eq_some_iff.1 told
  obtain ⟨e, -, told⟩ := Option.bind_eq_some_iff.1 told
  dsimp only at told
  split at told
  · cases told
    rfl
  · cases told

theorem category_of_flow {start : String} {i : Issue}
    (told : i ∈ checkEventFlow r ∨ i ∈ checkTimelineFlow r start) :
    i.finding.category = "flow" := by
  obtain events | timelines := told
  · obtain ⟨timeline, first, finding, -, unreachable, same⟩ := mem_checkEventFlow events
    rw [same]
    exact category_of_unreachableEvents unreachable
  · obtain ⟨-, ⟨-, rfl⟩ | ⟨-, name, -, rfl⟩⟩ := mem_checkTimelineFlow.1 timelines <;> rfl

theorem mem_check_iff_of_quality {i : Issue} (quality : i.finding.category = "quality") :
    i ∈ (check config r).issues ↔ config.quality.enabled = true ∧
      i ∈ inEvents r (checkQuality config.quality.maxTextLength) := by
  simp only [check, List.mem_append, mem_onlyIf]
  refine ⟨fun told => ?_, fun told => .inl (.inr told)⟩
  obtain (⟨-, ⟨-, targets⟩ | ⟨-, assets⟩⟩ | told) | ⟨-, flow⟩ := told
  · rw [category_of_inEvents category_of_checkTargets targets] at quality
    exact absurd quality (by decide)
  · rw [category_of_inEvents category_of_checkAsset assets] at quality
    exact absurd quality (by decide)
  · exact told
  · rw [category_of_flow (flow.imp_right And.right)] at quality
    exact absurd quality (by decide)

/-- The check of the quality of events finds an error in an event. -/
def ErrorAt (maxTextLength : Nat) (r : Registry) (name : String) (index : Nat) : Prop :=
  ∃ i ∈ inEvents r (checkQuality maxTextLength),
    i.level = .error ∧ i.timeline = name ∧ i.index = some index

theorem errorAt_told_iff {name : String} {index : Nat} :
    (∃ i ∈ (check config r).issues, i.finding.category = "quality" ∧ i.level = .error ∧
      i.timeline = name ∧ i.index = some index) ↔
    config.quality.enabled = true ∧ ErrorAt config.quality.maxTextLength r name index := by
  constructor
  · rintro ⟨i, told, quality, there⟩
    obtain ⟨enabled, listed⟩ := (mem_check_iff_of_quality quality).1 told
    exact ⟨enabled, i, listed, there⟩
  · rintro ⟨enabled, i, listed, there⟩
    have quality := category_of_inEvents category_of_checkQuality listed
    exact ⟨i, (mem_check_iff_of_quality quality).2 ⟨enabled, listed⟩, quality, there⟩

theorem exists_error_iff {set : MultiChoiceSet} (nonempty : set.choices ≠ [])
    (maxTextLength : Nat) :
    (∃ f ∈ checkQuality maxTextLength (.multiChoice set), f.level = .error) ↔
      ¬ set.Answerable := by
  have options : set.choices.isEmpty = false := List.isEmpty_eq_false_iff.2 nonempty
  simp only [checkQuality, options, Bool.false_eq_true, if_false, checkSelection, List.mem_append,
    mem_when, decide_eq_true_eq]
  constructor
  · rintro ⟨f, ((bounds | ⟨above, -⟩) | ⟨-, rfl⟩) | ⟨-, rfl⟩, error⟩ able
    · split at bounds
      · next max bounded =>
        have reachable := able.2 max bounded
        have above := (mem_when.1 bounds).1
        rw [decide_eq_true_eq] at above
        omega
      · cases bounds
    · have := able.1
      omega
    · cases error
    · cases error
  · intro never
    -- either there are too few options, or too few of them may be selected
    by_cases above : set.choices.length < set.minSelect
    · exact ⟨_, .inl (.inl (.inr ⟨above, rfl⟩)), rfl⟩
    · cases bounded : set.maxSelect with
      | none => exact absurd ⟨Nat.not_lt.1 above, by simp [bounded]⟩ never
      | some max =>
        have above_max : max < set.minSelect := by
          by_contra under
          refine never ⟨Nat.not_lt.1 above, fun max' same => ?_⟩
          rw [bounded] at same
          cases same
          exact Nat.not_lt.1 under
        have told : .minAboveMax set.minSelect max ∈
            when (max < set.minSelect) (.minAboveMax set.minSelect max) :=
          mem_when.2 ⟨decide_eq_true above_max, rfl⟩
        exact ⟨_, .inl (.inl (.inl told)), rfl⟩

/-- The bounds of a multiple choice that is told as an error are those that no selection keeps. -/
theorem errorAt_iff {maxTextLength : Nat} {name : String} {timeline : Timeline} {index : Nat}
    {set : MultiChoiceSet} (found : r.find? name = some timeline)
    (there : timeline[index]? = some (.multiChoice set)) (nonempty : set.choices ≠ []) :
    ErrorAt maxTextLength r name index ↔ ¬ set.Answerable := by
  rw [← exists_error_iff nonempty maxTextLength]
  constructor
  · rintro ⟨⟨f, _, _⟩, listed, error, rfl, rfl⟩
    obtain ⟨timeline', e, found', there', mem⟩ := mem_inEvents_iff.1 listed
    obtain rfl : timeline = timeline' := Option.some.inj (found.symm.trans found')
    obtain rfl : .multiChoice set = e := Option.some.inj (there.symm.trans there')
    exact ⟨f, mem, error⟩
  · rintro ⟨f, mem, error⟩
    exact ⟨_, mem_inEvents_iff.2 ⟨timeline, _, found, there, mem⟩, error, rfl, rfl⟩

end VisualNovel.Lint
