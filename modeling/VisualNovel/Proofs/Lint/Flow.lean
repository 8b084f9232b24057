import VisualNovel.Lint.Check
import VisualNovel.Proofs.Dict

namespace VisualNovel.Lint

variable {config : Config} {r : Registry} {i : Issue}

theorem mem_onlyIf {holds : Bool} {issues : List Issue} :
    i ∈ onlyIf holds issues ↔ holds = true ∧ i ∈ issues := by
  cases holds <;> simp [onlyIf]

theorem mem_when {holds : Bool} {finding found : Finding} :
    found ∈ when holds finding ↔ holds = true ∧ found = finding := by
  cases holds <;> simp [when]

theorem exists_of_mem_inEvents {find : Event → List Finding} (mem : i ∈ inEvents r find) :
    ∃ e, i.finding ∈ find e := by
  simp only [inEvents, List.mem_flatMap, List.mem_map] at mem
  obtain ⟨_, -, ⟨e, _⟩, -, finding, found, rfl⟩ := mem
  exact ⟨e, found⟩

theorem category_of_checkTargets {e : Event} {f : Finding} (mem : f ∈ checkTargets r e) :
    f.category = "references" := by
  obtain ⟨key, -, rfl⟩ := List.mem_map.1 mem
  rfl

theorem category_of_checkAsset {e : Event} {f : Finding} (mem : f ∈ checkAsset r e) :
    f.category = "references" := by
  unfold checkAsset at mem
  split at mem
  · cases mem
  · split at mem
    · obtain rfl := List.mem_singleton.1 mem
      rfl
    · cases mem

theorem category_of_checkQuality {bound : Nat} {e : Event} {f : Finding}
    (mem : f ∈ checkQuality bound e) : f.category = "quality" := by
  cases e with
  | choice options =>
    simp only [checkQuality, List.mem_append, mem_when] at mem
    obtain ⟨-, rfl⟩ | ⟨-, rfl⟩ := mem <;> rfl
  | multiChoice set =>
    simp only [checkQuality, List.mem_append, mem_when] at mem
    obtain selection | ⟨-, rfl⟩ := mem
    · split at selection
      · obtain rfl := List.mem_singleton.1 selection
        rfl
      · simp only [checkSelection, List.mem_append, mem_when] at selection
        obtain (bounds | ⟨-, rfl⟩) | ⟨-, rfl⟩ := selection
        · split at bounds
          · obtain ⟨-, rfl⟩ := mem_when.1 bounds
            rfl
          · cases bounds
        · rfl
        · rfl
    · rfl
  | dialog line =>
    obtain ⟨-, rfl⟩ := mem_when.1 mem
    rfl
  | unknown =>
    obtain rfl := List.mem_singleton.1 mem
    rfl
  | _ => cases mem

theorem category_of_inEvents {find : Event → List Finding} {category : String}
    (all : ∀ {e f}, f ∈ find e → f.category = category) (mem : i ∈ inEvents r find) :
    i.finding.category = category := by
  obtain ⟨e, found⟩ := exists_of_mem_inEvents mem
  exact all found

/-- What is told about the flow comes from the checks of the flow. -/
theorem mem_check_iff_of_flow (flow : i.finding.category = "flow") :
    i ∈ (check config r).issues ↔ config.flow.enabled = true ∧
      (i ∈ checkEventFlow r ∨
        config.flow.checkOrphans = true ∧ i ∈ checkTimelineFlow r config.flow.entry) := by
  simp only [check, List.mem_append, mem_onlyIf]
  refine ⟨fun told => told.resolve_left ?_, .inr⟩
  rintro (⟨-, ⟨-, targets⟩ | ⟨-, assets⟩⟩ | ⟨-, quality⟩)
  · rw [category_of_inEvents category_of_checkTargets targets] at flow
    exact absurd flow (by decide)
  · rw [category_of_inEvents category_of_checkAsset assets] at flow
    exact absurd flow (by decide)
  · rw [category_of_inEvents category_of_checkQuality quality] at flow
    exact absurd flow (by decide)

theorem exists_exit {timeline : Timeline} {first : Nat} {finding : Finding}
    (h : unreachableEvents? timeline = some (first, finding)) :
    ∃ exit e, first = exit + 1 ∧ first < timeline.length ∧ timeline[exit]? = some e ∧
      e.endsActivation = true := by
  unfold unreachableEvents? at h
  obtain ⟨exit, found, h⟩ := Option.bind_eq_some_iff.1 h
  obtain ⟨e, there, h⟩ := Option.bind_eq_some_iff.1 h
  obtain ⟨lt, ends, -⟩ := List.findIdx?_eq_some_iff_getElem.1 found
  obtain ⟨lt', rfl⟩ := List.getElem?_eq_some_iff.1 there
  dsimp only at h
  split at h
  · next room =>
    cases h
    exact ⟨exit, _, rfl, room, there, ends⟩
  · cases h

theorem mem_checkEventFlow (mem : i ∈ checkEventFlow r) :
    ∃ timeline first finding, r.find? i.timeline = some timeline ∧
      unreachableEvents? timeline = some (first, finding) ∧
        i = ⟨finding, i.timeline, some first⟩ := by
  simp only [checkEventFlow, List.mem_filterMap, Option.map_eq_some_iff] at mem
  obtain ⟨⟨name, timeline⟩, listed, ⟨first, finding⟩, found, rfl⟩ := mem
  exact ⟨timeline, first, finding, Dict.get?_of_mem listed, found, rfl⟩

/-- Without an entry that is only what is missing, otherwise what is not found from it. -/
theorem mem_checkTimelineFlow {start : String} :
    i ∈ checkTimelineFlow r start ↔ r.timelines.isEmpty = false ∧
      (r.contains start = false ∧ i = ⟨.unregisteredEntry, start, none⟩ ∨
        r.contains start = true ∧ ∃ name ∈ (unreached [start] r.timelines.entries).map Prod.fst,
          i = ⟨.unreachableTimeline start, name, none⟩) := by
  unfold checkTimelineFlow
  cases r.timelines.isEmpty with
  | true => simp
  | false =>
    cases r.contains start with
    | false => simp
    | true => simp [eq_comm]

/-- Events that cannot be played come behind one with which playback ends. -/
theorem exit_of_unreachableEvents {count exit first : Nat} {tag name : String}
    (told : ⟨.unreachableEvents count tag exit, name, some first⟩ ∈ (check config r).issues) :
    ∃ timeline exit e, r.find? name = some timeline ∧ first = exit + 1 ∧
      first < timeline.length ∧ timeline[exit]? = some e ∧ e.endsActivation = true := by
  obtain ⟨-, events | ⟨-, timelines⟩⟩ := (mem_check_iff_of_flow rfl).1 told
  · obtain ⟨timeline, place, finding, found, unreachable, same⟩ := mem_checkEventFlow events
    cases same
    obtain ⟨exit, e, rest⟩ := exists_exit unreachable
    exact ⟨timeline, exit, e, found, rest⟩
  · obtain ⟨-, ⟨-, other⟩ | ⟨-, _, -, other⟩⟩ := mem_checkTimelineFlow.1 timelines
    · cases other
    · cases other

@[simp] theorem unreached_nil (all : List (String × Timeline)) : unreached [] all = all := by
  rw [unreached]

theorem unreached_cons_of_some {key : String} {pending : List String}
    {all : List (String × Timeline)} {timeline : Timeline}
    (found : all.lookup key = some timeline) : unreached (key :: pending) all =
      unreached (pending ++ timeline.flatMap Event.successors) (others key all) := by
  rw [unreached]
  split
  · next missing => simp [found] at missing
  · next found' =>
    cases found.symm.trans found'
    rfl

/-- Timelines were taken out until none of them led to one that is left. -/
structure Closed (pending : List String) (all left : List (String × Timeline)) : Prop where
  subset : left ⊆ all
  pending : ∀ key ∈ pending, key ∉ left.map Prod.fst
  successors : ∀ name timeline, all.lookup name = some timeline → name ∉ left.map Prod.fst →
    ∀ e ∈ timeline, ∀ key ∈ e.successors, key ∉ left.map Prod.fst

theorem Closed.others {key : String} {timeline : Timeline} {pending : List String}
    {all left : List (String × Timeline)} (found : all.lookup key = some timeline)
    (h : Closed (pending ++ timeline.flatMap Event.successors) (others key all) left) :
    Closed (key :: pending) all left := by
  have subset : left ⊆ all := fun e mem => (List.mem_filter.1 (h.subset mem)).1
  have taken : key ∉ left.map Prod.fst := by
    intro again
    obtain ⟨e, mem, rfl⟩ := List.mem_map.1 again
    simpa using (List.mem_filter.1 (h.subset mem)).2
  refine ⟨subset, List.forall_mem_cons.2 ⟨taken, ?_⟩, ?_⟩
  · intro k mem
    exact h.pending k (List.mem_append_left _ mem)
  · intro name timeline' found' out e mem k next
    -- what the timeline leads to is pending now, and the others are still there
    by_cases same : name = key
    · subst same
      obtain rfl : timeline = timeline' := Option.some.inj (found.symm.trans found')
      exact h.pending k (List.mem_append_right _ (List.mem_flatMap.2 ⟨e, mem, next⟩))
    · refine h.successors name timeline' ?_ out e mem k next
      rw [Lint.others, Dict.lookup_filter_ne, if_neg same, found']

theorem closed_unreached (pending : List String) (all : List (String × Timeline)) :
    Closed pending all (unreached pending all) := by
  fun_induction unreached pending all with
  | case1 all =>
    -- each timeline is left, so that nothing is said of its successors
    refine ⟨fun _ => id, by simp, ?_⟩
    intro name timeline found out
    exact (out (Dict.lookup_isSome_iff.1 (by simp [found]))).elim
  | case2 all key pending missing ih =>
    refine ⟨ih.subset, List.forall_mem_cons.2 ⟨?_, ih.pending⟩, ih.successors⟩
    intro again
    have there := Dict.lookup_isSome_iff.2 (List.map_subset _ ih.subset again)
    simp [missing] at there
  | case3 all key pending timeline found ih => exact ih.others found

/-- The timeline is told not to be found from the one that is played first. -/
def Orphan (config : Config) (r : Registry) (name : String) : Prop :=
  ⟨.unreachableTimeline config.flow.entry, name, none⟩ ∈ (check config r).issues

section Orphan

variable {name : String} (registered : r.contains config.flow.entry = true)
include registered

theorem orphan_iff : Orphan config r name ↔
    config.flow.enabled = true ∧ config.flow.checkOrphans = true ∧
      name ∈ (unreached [config.flow.entry] r.timelines.entries).map Prod.fst := by
  have nonempty : r.timelines.isEmpty = false := by
    obtain ⟨timeline, found⟩ := Option.isSome_iff_exists.1 registered
    exact List.isEmpty_eq_false_iff_exists_mem.2 ⟨_, Dict.mem_of_get? found⟩
  have other : (⟨.unreachableTimeline config.flow.entry, name, none⟩ : Issue) ∉
      checkEventFlow r := by
    intro events
    obtain ⟨_, _, _, -, -, same⟩ := mem_checkEventFlow events
    cases same
  rw [Orphan, mem_check_iff_of_flow rfl, mem_checkTimelineFlow]
  simp [other, nonempty, registered]

theorem not_orphan_entry : ¬ Orphan config r config.flow.entry := by
  intro orphan
  obtain ⟨-, -, left⟩ := (orphan_iff registered).1 orphan
  exact (closed_unreached _ _).pending _ (List.mem_singleton.2 rfl) left

/-- Timelines that are found lead to no others, as far as successors are looked at. -/
theorem not_orphan_of_successor (found : ¬ Orphan config r name) {timeline : Timeline}
    (there : r.find? name = some timeline) {e : Event} (mem : e ∈ timeline) {key : String}
    (next : key ∈ e.successors) : ¬ Orphan config r key := by
  intro orphan
  obtain ⟨enabled, checked, left⟩ := (orphan_iff registered).1 orphan
  have out : name ∉ (unreached [config.flow.entry] r.timelines.entries).map Prod.fst := by
    intro left
    exact found ((orphan_iff registered).2 ⟨enabled, checked, left⟩)
  exact (closed_unreached _ _).successors name timeline there out e mem key next left

end Orphan

end VisualNovel.Lint
