import Mathlib.Algebra.GroupWithZero.Nat
import Mathlib.Algebra.Order.BigOperators.Group.List
import Mathlib.Algebra.Order.Group.Nat
import Mathlib.Logic.Relation
import VisualNovel.Proofs.Lint.Flow

namespace VisualNovel.Lint

/-- The one timeline is there, and one of its events has the other key among its successors. -/
def Refers (all : List (String × Timeline)) (name key : String) : Prop :=
  ∃ timeline, all.lookup name = some timeline ∧ ∃ e ∈ timeline, key ∈ e.successors

/-- A path of timelines, each of which refers to the next one. -/
def Reaches (all : List (String × Timeline)) : String → String → Prop :=
  Relation.ReflTransGen (Refers all)

variable {all : List (String × Timeline)} {pending : List String} {name key last : String}

theorem Reaches.of_others (path : Reaches (others key all) name last) : Reaches all name last := by
  have still {a b : String} (h : Refers (others key all) a b) : Refers all a b := by
    obtain ⟨timeline, found, refers⟩ := h
    rw [others, Dict.lookup_filter_ne] at found
    split at found
    · cases found
    · exact ⟨timeline, found, refers⟩
  induction path with
  | refl => exact .refl
  | tail _ refers ih => exact .tail ih (still refers)

theorem unreached_sublist (pending : List String) (all : List (String × Timeline)) :
    (unreached pending all).Sublist all := by
  fun_induction unreached pending all with
  | case1 all => exact .refl all
  | case2 all key pending missing ih => exact ih
  | case3 all key pending timeline found ih => exact ih.trans List.filter_sublist

/-- What was taken out can be reached from a key that was pending. -/
theorem reaches_of_taken (there : name ∈ all.map Prod.fst)
    (taken : name ∉ (unreached pending all).map Prod.fst) :
    ∃ key ∈ pending, Reaches all key name := by
  fun_induction unreached pending all with
  | case1 all => exact (taken there).elim
  | case2 all key pending missing ih =>
    obtain ⟨k, mem, path⟩ := ih there taken
    exact ⟨k, List.mem_cons_of_mem key mem, path⟩
  | case3 all key pending timeline found ih =>
    by_cases same : name = key
    · subst same
      exact ⟨name, List.mem_cons_self, .refl⟩
    · have still : name ∈ (others key all).map Prod.fst := by
        obtain ⟨e, mem, rfl⟩ := List.mem_map.1 there
        exact List.mem_map_of_mem (List.mem_filter.2 ⟨mem, by simpa using same⟩)
      obtain ⟨k, mem, path⟩ := ih still taken
      obtain waiting | next := List.mem_append.1 mem
      · exact ⟨k, List.mem_cons_of_mem key waiting, path.of_others⟩
      · -- the path begins at a successor of the timeline that was just taken out
        obtain ⟨e, event, successor⟩ := List.mem_flatMap.1 next
        exact ⟨key, List.mem_cons_self, .head ⟨timeline, found, e, event, successor⟩ path.of_others⟩

/-- A timeline that was taken out leads to none that is left. -/
theorem not_left_of_reaches (mem : key ∈ pending) (path : Reaches all key name) :
    name ∉ (unreached pending all).map Prod.fst := by
  have closed := closed_unreached pending all
  induction path with
  | refl => exact closed.pending key mem
  | tail _ refers ih =>
    obtain ⟨timeline, found, e, event, successor⟩ := refers
    exact closed.successors _ timeline found ih e event _ successor

theorem mem_unreached_iff : name ∈ (unreached [key] all).map Prod.fst ↔
    name ∈ all.map Prod.fst ∧ ¬ Reaches all key name := by
  constructor
  · intro left
    refine ⟨List.map_subset _ (unreached_sublist [key] all).subset left, ?_⟩
    intro path
    exact not_left_of_reaches (List.mem_singleton.2 rfl) path left
  · rintro ⟨there, apart⟩
    refine Decidable.byContradiction fun taken => ?_
    obtain ⟨k, mem, path⟩ := reaches_of_taken there taken
    obtain rfl := List.mem_singleton.1 mem
    exact apart path

/-- The search, given up when it is not over after so many keys. -/
def unreachedWithin : Nat → List String → List (String × Timeline) →
    Option (List (String × Timeline))
  | _, [], left => some left
  | 0, _ :: _, _ => none
  | steps + 1, key :: pending, left =>
    match left.lookup key with
    | none => unreachedWithin steps pending left
    | some timeline =>
      unreachedWithin steps (pending ++ timeline.flatMap Event.successors) (others key left)

/-- How many successors the events of some timelines have. -/
def successorCount (all : List (String × Timeline)) : Nat :=
  (all.map fun e => (e.2.flatMap Event.successors).length).sum

/-- A timeline that is taken out gives its successors to the search, and none are counted twice. -/
theorem successorCount_others {timeline : Timeline} (found : all.lookup key = some timeline) :
    (timeline.flatMap Event.successors).length + successorCount (others key all) ≤
      successorCount all := by
  induction all with
  | nil => cases found
  | cons head rest ih =>
    obtain ⟨first, events⟩ := head
    by_cases same : key = first
    · subst same
      obtain rfl : events = timeline := by simpa using found
      have kept : others key ((key, events) :: rest) = others key rest := by simp [others]
      have fewer : successorCount (others key rest) ≤ successorCount rest :=
        (List.filter_sublist.map _).sum_le_sum fun _ _ => Nat.zero_le _
      rw [kept]
      simp only [successorCount, List.map_cons, List.sum_cons] at fewer ⊢
      omega
    · have kept : others key ((first, events) :: rest) = (first, events) :: others key rest := by
        simp [others, Ne.symm same]
      have later := ih (by simpa [List.lookup_cons, beq_eq_false_iff_ne.2 same] using found)
      rw [kept]
      simp only [successorCount, List.map_cons, List.sum_cons] at later ⊢
      omega

/-- Each key that is looked at was given first, or is a successor in a timeline that was taken
out. -/
theorem unreachedWithin_eq {steps : Nat} (enough : pending.length + successorCount all ≤ steps) :
    unreachedWithin steps pending all = some (unreached pending all) := by
  fun_induction unreached pending all generalizing steps with
  | case1 all => cases steps <;> rfl
  | case2 all key pending missing ih =>
    rw [List.length_cons] at enough
    obtain ⟨steps, rfl⟩ := Nat.exists_eq_add_one_of_ne_zero (show steps ≠ 0 by omega)
    simp only [unreachedWithin, missing]
    exact ih (by omega)
  | case3 all key pending timeline found ih =>
    have shared := successorCount_others found
    rw [List.length_cons] at enough
    obtain ⟨steps, rfl⟩ := Nat.exists_eq_add_one_of_ne_zero (show steps ≠ 0 by omega)
    simp only [unreachedWithin, found]
    exact ih (by rw [List.length_append]; omega)

/-- When the timeline that is played first is registered, the search is over after a bounded number
of keys, and those timelines are told, in the order of their names and each once, that are
registered and to which no path leads. -/
theorem orphans_are_unreachable {r : Registry} {start : String}
    (registered : r.contains start = true) :
    unreachedWithin (1 + successorCount r.timelines.entries) [start] r.timelines.entries =
        some (unreached [start] r.timelines.entries) ∧
      ∃ names : List String,
        checkTimelineFlow r start = names.map (⟨.unreachableTimeline start, ·, none⟩) ∧
        names.Sublist r.keys ∧ names.Pairwise (· < ·) ∧
        ∀ name, name ∈ names ↔
          r.contains name = true ∧ ¬ Reaches r.timelines.entries start name := by
  have sublist := (unreached_sublist [start] r.timelines.entries).map Prod.fst
  have ascending := r.timelines.keys_ascending.sublist sublist
  refine ⟨unreachedWithin_eq (Nat.le_refl _), _, ?_, sublist, ascending, ?_⟩
  · have nonempty : r.timelines.isEmpty = false := by
      obtain ⟨timeline, found⟩ := Option.isSome_iff_exists.1 registered
      exact List.isEmpty_eq_false_iff_exists_mem.2 ⟨_, Dict.mem_of_get? found⟩
    simp [checkTimelineFlow, nonempty, registered]
  · intro name
    rw [mem_unreached_iff]
    exact and_congr_left' Dict.contains_iff.symm

/-- Two timelines that lead to each other and to one that is missing, and two more apart from
them. -/
def islands : Registry :=
  (((Registry.insert {} "start" [.choice [⟨"On", "bridge"⟩, ⟨"Off", "missing"⟩]]).insert "bridge"
    [.timelineTransition "start"]).insert "tomb" [.timelineTransition "cave"]).insert "cave"
    [.dialog { text := "Dark" }, .timelineTransition "tomb"]

theorem islands_told :
    checkTimelineFlow islands "start" =
        [⟨.unreachableTimeline "start", "cave", none⟩,
          ⟨.unreachableTimeline "start", "tomb", none⟩] ∧
      ¬ Reaches islands.timelines.entries "start" "cave" ∧
      Reaches islands.timelines.entries "start" "bridge" := by
  obtain ⟨search, names, told, -, -, exact⟩ := @orphans_are_unreachable islands "start" rfl
  have left : unreached ["start"] islands.timelines.entries =
      [("cave", [.dialog { text := "Dark" }, .timelineTransition "tomb"]),
        ("tomb", [.timelineTransition "cave"])] := (Option.some.inj search).symm
  have issues : checkTimelineFlow islands "start" =
      [⟨.unreachableTimeline "start", "cave", none⟩,
        ⟨.unreachableTimeline "start", "tomb", none⟩] := by
    have nonempty : islands.timelines.isEmpty = false := rfl
    have registered : islands.contains "start" = true := rfl
    simp [checkTimelineFlow, nonempty, registered, left]
  have cave : "cave" ∈ names := by
    have listed : (⟨.unreachableTimeline "start", "cave", none⟩ : Issue) ∈
        names.map (⟨.unreachableTimeline "start", ·, none⟩) := by
      rw [← told, issues]
      exact List.mem_cons_self
    obtain ⟨name, mem, same⟩ := List.mem_map.1 listed
    cases same
    exact mem
  have bridge : Refers islands.timelines.entries "start" "bridge" :=
    ⟨_, rfl, _, List.mem_cons_self, by decide⟩
  exact ⟨issues, ((exact "cave").1 cave).2, .single bridge⟩

end VisualNovel.Lint
