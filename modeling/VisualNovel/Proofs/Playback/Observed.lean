import VisualNovel.Proofs.Playback.Filed
import VisualNovel.Proofs.Playback.Records

namespace VisualNovel

namespace Log

theorem Category.target_beq (a b : Category) : (a.target == b.target) = (a == b) := by
  cases a <;> cases b <;> decide

/-- Whether the filter asks for the records of a target. -/
def Filter.covers (f : Filter) (target : String) : Bool :=
  f.enabled && (f.categories.map Category.target).contains target

/-- Records of a player are kept by their targets. -/
theorem Filter.keeps_eq_covers (f : Filter) {e : Entry} (h : e.restart? = none) :
    f.keeps e = f.covers e.target := by
  have contains (c : Category) :
      (f.categories.map Category.target).contains c.target = f.lists c := by
    simp only [lists, List.contains_eq_any_beq, List.any_map, Function.comp_def,
      Category.target_beq]
  cases e with
  | restarting timeline => cases h
  | _ => exact congrArg (f.enabled && ·) (contains _).symm

end Log

namespace Playback

/-- What can be asked of a player at any time. -/
inductive Demand where
  | opening (o : Opening)
  | call (c : Call)

abbrev Answer := Except LoadError Progress

/-- A timeline that cannot be begun leaves the player as it is. -/
def meet (p : Playback) : Demand → Except ClockOverflow (Answer × Playback)
  | .opening o =>
    match p.opened o with
    | .ok (progress, q) => .ok (.ok progress, q)
    | .error e => .ok (.error e, p)
  | .call c => (p.call c).map fun (progress, q) => (.ok progress, q)

/-- Ask for one thing after the other, and keep all answers. -/
def meetAll (p : Playback) : List Demand → Except ClockOverflow (List Answer × Playback)
  | [] => .ok ([], p)
  | d :: ds =>
    match p.meet d with
    | .error e => .error e
    | .ok (answer, q) => (q.meetAll ds).map fun (answers, q) => (answer :: answers, q)

theorem meet_cases {p q : Playback} {d : Demand} {answer : Answer}
    (h : p.meet d = .ok (answer, q)) :
    q = p ∨
      (∃ name timeline index,
        q = (startAt { p with player.timelineKey := name } timeline index).2) ∨
      ∃ c progress, p.call c = .ok (progress, q) := by
  cases d with
  | opening o =>
    simp only [meet] at h
    split at h
    · next opened =>
      obtain ⟨name, timeline, index, began⟩ := opened_named opened
      cases h
      exact .inr (.inl ⟨name, timeline, index, congrArg Prod.snd began⟩)
    · cases h
      exact .inl rfl
  | call c =>
    simp only [meet] at h
    cases called : p.call c with
    | error e => rw [called] at h; cases h
    | ok r =>
      rw [called] at h
      cases h
      exact .inr (.inr ⟨c, r.1, called⟩)

section Filed

variable {p : Playback} (filter : Log.Filter) (earlier : Array Log.Entry)

theorem meet_recordsAll (all : p.RecordsAll) {d : Demand} {answer : Answer} {q : Playback}
    (h : p.meet d = .ok (answer, q)) : q.RecordsAll := by
  obtain rfl | ⟨name, timeline, index, rfl⟩ | ⟨c, progress, called⟩ := meet_cases h
  · exact all
  · let named : Playback := { p with player.timelineKey := name }
    exact RecordsAll.setUp (p := named) all (startAt_setUp named timeline index)
  · exact all.setUp (step_setUp (call_step called))

theorem filed_opened (all : p.RecordsAll) (o : Opening) :
    (p.filed filter earlier).opened o = (p.opened o).map (filedAnswer filter earlier) := by
  have named (registry : Registry) (key : String) (index : Nat) :
      (p.filed filter earlier).startNamed registry key index =
        (p.startNamed registry key index).map (filedAnswer filter earlier) := by
    unfold startNamed
    cases registry.get key with
    | error e => rfl
    | ok timeline =>
      let q : Playback := { p with player.timelineKey := some key }
      exact congrArg Except.ok (filed_startAt (p := q) all filter earlier timeline index)
  cases o with
  | start timeline => exact congrArg Except.ok (filed_startAt all filter earlier timeline 0)
  | startAt timeline index =>
    exact congrArg Except.ok (filed_startAt all filter earlier timeline index)
  | startKey registry key => exact named registry key 0
  | resume registry snapshot =>
    simp only [opened, resume]
    cases snapshot.timelineKey with
    | none => rfl
    | some key => exact named registry key _

theorem filed_meet (all : p.RecordsAll) (d : Demand) :
    (p.filed filter earlier).meet d =
      (p.meet d).map fun (answer, q) => (answer, q.filed filter earlier) := by
  cases d with
  | opening o =>
    simp only [meet, filed_opened filter earlier all]
    cases p.opened o <;> rfl
  | call c =>
    simp only [meet, filed_call all]
    cases p.call c <;> rfl

theorem filed_meetAll (all : p.RecordsAll) (ds : List Demand) :
    (p.filed filter earlier).meetAll ds =
      (p.meetAll ds).map fun (answers, q) => (answers, q.filed filter earlier) := by
  induction ds generalizing p with
  | nil => rfl
  | cons d ds ih =>
    simp only [meetAll, filed_meet filter earlier all]
    cases met : p.meet d with
    | error e => rfl
    | ok r =>
      obtain ⟨answer, q⟩ := r
      simp only [Except.map, ih (meet_recordsAll all met)]
      cases q.meetAll ds <;> rfl

end Filed

/-- A player does not restart by itself. -/
theorem meet_restarts {p q : Playback} {d : Demand} {answer : Answer}
    (h : p.meet d = .ok (answer, q)) : q.restarts = p.restarts := by
  obtain rfl | ⟨name, timeline, index, rfl⟩ | ⟨c, progress, called⟩ := meet_cases h
  · rfl
  · exact startAt_restarts { p with player.timelineKey := name } timeline index
  · exact call_restarts called

theorem meetAll_restarts {p q : Playback} {ds : List Demand} {answers : List Answer}
    (h : p.meetAll ds = .ok (answers, q)) : q.restarts = p.restarts := by
  induction ds generalizing p answers with
  | nil => cases h; rfl
  | cons d ds ih =>
    simp only [meetAll] at h
    cases met : p.meet d with
    | error e => rw [met] at h; cases h
    | ok r =>
      obtain ⟨answer, m⟩ := r
      simp only [met] at h
      cases rest : m.meetAll ds with
      | error e => rw [rest] at h; cases h
      | ok s =>
        obtain ⟨later, q⟩ := s
        rw [rest] at h
        cases h
        exact (ih rest).trans (meet_restarts met)

/-- Of a player that was never restarted, a filter keeps the records of its targets. -/
theorem filter_keeps {p : Playback} (h : p.restarts = []) (filter : Log.Filter) :
    p.records.filter filter.keeps = p.records.filter (filter.covers ·.target) := by
  rw [← Array.toList_inj, Array.toList_filter, Array.toList_filter]
  refine List.filter_congr fun e mem => filter.keeps_eq_covers ?_
  exact List.filterMap_eq_nil_iff.1 h e mem

/-- What a run shows: the answers, the player with its cursor, and the surface with all that was
done to it. -/
def shown (run : List Answer × Playback) : List Answer × Snapshot × Player × Surface :=
  (run.1, run.2.snapshot, { run.2.player with config.log := .default }, run.2.surface)

variable {c d : Config} {seed : Nat} (seeded : c.seed = some seed) (surface : Surface)
include seeded

/-- A player with a filter is one that records everything, seen through the filter. -/
theorem ofConfig_filed (filter : Log.Filter) (stream other : Random) :
    ofConfig { c with log := filter } surface stream =
      (ofConfig { c with log := .verbose } surface other).filed filter #[] := by
  simp [ofConfig, filed, seeded]

/-- Players whose settings differ in the filter alone, and that draw from one seed, give the same
answers and show the same; and a filter keeps, in their order, the records of its targets. -/
theorem only_records_differ (differ : { c with log := d.log } = d) (stream other : Random)
    (demands : List Demand) :
    ((ofConfig c surface stream).meetAll demands).map shown =
        ((ofConfig d surface other).meetAll demands).map shown ∧
      ((ofConfig c surface stream).meetAll demands).map (·.2.records) =
        ((ofConfig { c with log := .verbose } surface other).meetAll demands).map
          fun run => run.2.records.filter (c.log.covers ·.target) := by
  have run (filter : Log.Filter) (stream : Random) :
      (ofConfig { c with log := filter } surface stream).meetAll demands =
        ((ofConfig { c with log := .verbose } surface other).meetAll demands).map
          fun (answers, p) => (answers, p.filed filter #[]) := by
    rw [ofConfig_filed seeded surface filter stream other]
    have all : RecordsAll (ofConfig { c with log := .verbose } surface other) := rfl
    exact filed_meetAll filter #[] all demands
  have mine := run c.log stream
  have theirs := run d.log other
  rw [differ] at theirs
  rw [show { c with log := c.log } = c from rfl] at mine
  rw [mine, theirs]
  cases played : (ofConfig { c with log := .verbose } surface other).meetAll demands with
  | error e => exact ⟨rfl, rfl⟩
  | ok r =>
    obtain ⟨answers, p⟩ := r
    refine ⟨rfl, ?_⟩
    have unrestarted : p.restarts = [] := meetAll_restarts played
    have records : (p.filed c.log #[]).records = p.records.filter c.log.keeps := Array.empty_append
    exact congrArg Except.ok (records.trans (filter_keeps unrestarted c.log))

omit seeded

/-- A seeded player that keeps the records of one category. -/
def terse : Config := { Config.default with seed := some 7, log := ⟨true, [.flow]⟩ }

theorem terse_shows_line :
    let demands : List Demand := [.opening (.start [.dialog { text := "Hi" }, .clearDialog]),
      .call .advance, .call .advance]
    let run (c : Config) := (ofConfig c (.ofCanvas defaultCanvas)).meetAll demands
    (run terse).map (·.1) = .ok [.ok .typing, .ok .waitInput, .ok .ended] ∧
      (run terse).map (·.2.records.size) = .ok 1 ∧
      (run { terse with log := .verbose }).map (·.2.records.size) = .ok 5 ∧
      (run terse).map shown = (run { terse with log := .default }).map shown ∧
      (run terse).map (·.2.records) = (run { terse with log := .verbose }).map
        fun run => run.2.records.filter (terse.log.covers ·.target) := by
  intro demands run
  have same := @only_records_differ terse { terse with log := .default } 7 rfl
    (.ofCanvas defaultCanvas) rfl (.ofSeed 0) (.ofSeed 0) demands
  exact ⟨rfl, rfl, rfl, same.1, same.2⟩

end Playback

end VisualNovel
