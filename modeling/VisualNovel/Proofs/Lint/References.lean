import VisualNovel.Lint.Check

namespace VisualNovel

def Registry.Lists (r : Registry) (e : Event) : Prop :=
  ∃ name timeline, r.find? name = some timeline ∧ e ∈ timeline

namespace Lint

theorem level_ne_error {report : Report} (h : report.hasErrors = false) {i : Issue}
    (mem : i ∈ report.issues) : i.level ≠ .error := by
  have none_found : report.count .error = 0 := by simpa [Report.hasErrors] using h
  have quiet := List.countP_eq_zero.1 none_found i mem
  intro error
  rw [error] at quiet
  exact quiet rfl

theorem mem_inEvents {r : Registry} {check : Event → List Finding} {name : String}
    {timeline : Timeline} {e : Event} {finding : Finding} (found : r.find? name = some timeline)
    (mem : e ∈ timeline) (told : finding ∈ check e) :
    ∃ index, ⟨finding, name, some index⟩ ∈ inEvents r check := by
  obtain ⟨index, lt, rfl⟩ := List.getElem_of_mem mem
  have placed : (timeline[index], index) ∈ timeline.zipIdx := by
    simp [List.mk_mem_zipIdx_iff_getElem?, lt]
  refine ⟨index, List.mem_flatMap.2 ⟨(name, timeline), Dict.mem_of_get? found, ?_⟩⟩
  exact List.mem_flatMap.2 ⟨_, placed, List.mem_map.2 ⟨finding, told, rfl⟩⟩

variable {config : Config} {r : Registry}

theorem mem_check_of_missing (enabled : config.references.enabled = true)
    (checked : config.references.checkTimelines = true) {name key : String} {timeline : Timeline}
    {e : Event} (found : r.find? name = some timeline) (mem : e ∈ timeline)
    (destination : key ∈ e.destinations) (named : key ≠ "") (missing : r.contains key = false) :
    ∃ index, ⟨.unknownTarget e.tag key, name, some index⟩ ∈ (check config r).issues := by
  have told : .unknownTarget e.tag key ∈ checkTargets r e :=
    List.mem_map.2 ⟨key, List.mem_filter.2 ⟨destination, by simp [named, missing]⟩, rfl⟩
  obtain ⟨index, listed⟩ := mem_inEvents found mem told
  exact ⟨index, by simp [check, onlyIf, enabled, checked, listed]⟩

/-- Without errors each destination that has a name is there. -/
theorem contains_of_no_errors (enabled : config.references.enabled = true)
    (checked : config.references.checkTimelines = true)
    (clean : (check config r).hasErrors = false) {e : Event} (listed : r.Lists e) {key : String}
    (destination : key ∈ e.destinations) (named : key ≠ "") : r.contains key = true := by
  obtain ⟨name, timeline, found, mem⟩ := listed
  cases missing : r.contains key with
  | true => rfl
  | false =>
    obtain ⟨index, told⟩ := mem_check_of_missing enabled checked found mem destination named missing
    exact (level_ne_error clean told rfl).elim

end Lint

end VisualNovel
