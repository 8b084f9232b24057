import VisualNovel.Proofs.Playback.Dispatched
import VisualNovel.Proofs.Session.Sounds

/-!
What a surface gets between one event and the next. A diary has a turn for each event that was
carried out, with the commands from then on until the next event. Its turns are the events that the
player tells, and all its commands together are those that the surface got.
-/

namespace VisualNovel.Playback

/-- An event that was carried out, with its number, and the commands from then on. -/
structure Turn where
  index : Nat
  event : Event
  commands : List Command := []

structure Diary where
  /-- The commands before the first event. -/
  before : List Command := []
  /-- The latest turn comes first. -/
  turns : List Turn := []

namespace Diary

/-- The commands belong to the latest turn. -/
def write (d : Diary) (commands : List Command) : Diary :=
  match d.turns with
  | [] => { d with before := d.before ++ commands }
  | turn :: past => { d with turns := { turn with commands := turn.commands ++ commands } :: past }

def turnTo (d : Diary) (index : Nat) (event : Event) : Diary :=
  { d with turns := { index, event } :: d.turns }

def events (d : Diary) : List (Nat × Event) :=
  d.turns.reverse.map fun turn => (turn.index, turn.event)

def commands (d : Diary) : List Command := d.before ++ d.turns.reverse.flatMap Turn.commands

variable (d : Diary) (commands : List Command) (index : Nat) (event : Event)

@[simp] theorem write_nil : d.write [] = d := by
  unfold write
  split
  · next none => rw [List.append_nil]
  · next turn past turns => simp only [List.append_nil, ← turns]

@[simp] theorem events_write : (d.write commands).events = d.events := by
  unfold write events
  split
  · rfl
  · next turn past turns => simp [turns]

@[simp] theorem events_turnTo : (d.turnTo index event).events = d.events ++ [(index, event)] := by
  simp [turnTo, events]

@[simp] theorem commands_write : (d.write commands).commands = d.commands ++ commands := by
  unfold write Diary.commands
  split
  · next none => simp [none]
  · next turn past turns => simp [turns]

@[simp] theorem commands_turnTo : (d.turnTo index event).commands = d.commands := by
  simp [turnTo, Diary.commands]

end Diary

/-- The commands that the surface got on the way to a later state. -/
def issued (p q : Playback) : List Command :=
  q.surface.log.toList.drop p.surface.log.toList.length

def runThroughDiary (p : Playback) (d : Diary) : List Event → Diary
  | [] => d
  | event :: rest =>
    let q := p.passing event
    let d := d.turnTo p.player.index event
    match event.pacing with
    | .immediate => (q.apply event).runThroughDiary (d.write (q.issued (q.apply event))) rest
    | .blocking => d.write (q.issued (q.block event).2)

def runDiary (p : Playback) (d : Diary) : Diary :=
  match p.player.timeline with
  | none => d
  | some timeline => p.runThroughDiary d (timeline.drop p.player.index)

def startAtDiary (p : Playback) (timeline : Timeline) (index : Nat) : Diary :=
  (p.readied timeline index).runDiary { before := p.issued (p.readied timeline index) }

/-- Whether a pointer down leads on to the next event. -/
def leadsOn (p : Playback) : Bool :=
  p.player.navigation.isNone && p.player.advanceEnabled && p.player.reveal.isNone

/-- Only a pointer down that leads on begins new turns. -/
def callDiary (p : Playback) (d : Diary) (c : Call) (q : Playback) : Diary :=
  match c with
  | .advance => if p.leadsOn then p.runDiary d else d.write (p.issued q)
  | .press _ | .tick _ => d.write (p.issued q)

theorem leadsOn_iff {p : Playback} : p.leadsOn = true ↔
    p.player.navigation = none ∧ p.player.advanceEnabled = true ∧ p.player.reveal = none := by
  simp [leadsOn, and_assoc]

theorem leads_or_stays (p : Playback) (c : Call) :
    (c = .advance ∧ p.leadsOn = true) ∨ (c = .advance → p.leadsOn = false) := by
  by_cases leads : c = .advance ∧ p.leadsOn = true
  · exact .inl leads
  · exact .inr fun advances => Bool.eq_false_iff.2 fun leading => leads ⟨advances, leading⟩

theorem advanceTold_of_leads {p : Playback} (leads : p.leadsOn = true) :
    p.advanceTold = (p.run.2.settle p.run.1, p.runTold.2) := by
  obtain ⟨navigation, enabled, reveal⟩ := leadsOn_iff.1 leads
  simp [advanceTold, navigation, enabled, reveal]

theorem callDiary_of_leads {p q : Playback} (d : Diary) (leads : p.leadsOn = true) :
    p.callDiary d .advance q = p.runDiary d := if_pos leads

theorem callDiary_of_stays {p q : Playback} {c : Call} (d : Diary)
    (stays : c = .advance → p.leadsOn = false) : p.callDiary d c q = d.write (p.issued q) := by
  cases c with
  | advance => exact if_neg (Bool.eq_false_iff.1 (stays rfl))
  | press id => rfl
  | tick time => rfl

def callsDiary (r : Progress × Playback) (d : Diary) :
    List Call → Except ClockOverflow ((Progress × Playback) × Diary)
  | [] => .ok (r, d)
  | c :: cs =>
    match r.2.call c with
    | .error e => .error e
    | .ok m => callsDiary m (r.2.callDiary d c m.2) cs

theorem exists_callsDiary {r s : Progress × Playback} {cs : List Call} (h : calls r cs = .ok s)
    (d : Diary) : ∃ kept, callsDiary r d cs = .ok (s, kept) := by
  induction cs generalizing r d with
  | nil =>
    cases h
    exact ⟨d, rfl⟩
  | cons c rest ih =>
    obtain ⟨m, hm, hs⟩ := calls_cons.1 h
    obtain ⟨kept, hk⟩ := ih hs (r.2.callDiary d c m.2)
    refine ⟨kept, ?_⟩
    simp only [callsDiary, hm, hk]

theorem callsDiary_invariant (Inv : Playback → Diary → Prop)
    (step : ∀ {p : Playback} {d : Diary} {c : Call} {m : Progress × Playback},
      Inv p d → p.call c = .ok m → Inv m.2 (p.callDiary d c m.2))
    {r s : Progress × Playback} {d kept : Diary} {cs : List Call}
    (h : callsDiary r d cs = .ok (s, kept)) (begun : Inv r.2 d) : Inv s.2 kept := by
  induction cs generalizing r d with
  | nil =>
    cases h
    exact begun
  | cons c rest ih =>
    cases called : r.2.call c with
    | error e =>
      simp only [callsDiary, called] at h
      cases h
    | ok m =>
      simp only [callsDiary, called] at h
      exact ih h (step begun called)

theorem events_runThroughDiary (p : Playback) (d : Diary) (left : List Event) :
    (p.runThroughDiary d left).events = d.events ++ (p.runThroughTold left).2 := by
  induction left generalizing p d with
  | nil => simp [runThroughDiary, runThroughTold]
  | cons e rest ih =>
    cases he : e.pacing with
    | immediate => simp [runThroughDiary, runThroughTold, he, ih]
    | blocking => simp [runThroughDiary, runThroughTold, he]

theorem events_runDiary (p : Playback) (d : Diary) :
    (p.runDiary d).events = d.events ++ p.runTold.2 := by
  unfold runDiary runTold
  cases p.player.timeline with
  | none => simp
  | some timeline => exact events_runThroughDiary p d _

theorem events_startAtDiary (p : Playback) (timeline : Timeline) (index : Nat) :
    (p.startAtDiary timeline index).events = (p.startAtTold timeline index).2 :=
  events_runDiary (p.readied timeline index) _

theorem callTold_of_stays {p : Playback} {c : Call} {t : Told} (h : p.callTold c = .ok t)
    (stays : c = .advance → p.leadsOn = false) : t.2 = [] := by
  cases c with
  | advance =>
    cases h
    have stays := stays rfl
    unfold advanceTold
    split
    · rfl
    · next navigation =>
      split
      · rfl
      · next enabled =>
        cases shown : p.player.reveal with
        | some reveal => rfl
        | none => simp_all [leadsOn]
  | press id =>
    cases h
    rfl
  | tick time => exact callTold_tick h

theorem events_callDiary {p : Playback} {c : Call} {t : Told} (d : Diary)
    (h : p.callTold c = .ok t) : (p.callDiary d c t.1.2).events = d.events ++ t.2 := by
  obtain ⟨rfl, leads⟩ | stays := p.leads_or_stays c
  · cases h
    rw [callDiary_of_leads d leads, events_runDiary, advanceTold_of_leads leads]
  · rw [callDiary_of_stays d stays, Diary.events_write, callTold_of_stays h stays, List.append_nil]

theorem issued_append {p q : Playback} (h : p.surface.Cued q.surface) :
    p.surface.log.toList ++ p.issued q = q.surface.log.toList := by
  obtain ⟨commands, surface, -⟩ := h
  rw [issued, surface, Surface.log_performAll, List.drop_left]

theorem issued_of_performAll {p q : Playback} {commands : List Command}
    (h : q.surface = p.surface.performAll commands) : p.issued q = commands := by
  rw [issued, h, Surface.log_performAll, List.drop_left]

/-- The surface got the commands of the diary, behind earlier ones. -/
def Logged (earlier : List Command) (p : Playback) (d : Diary) : Prop :=
  p.surface.log.toList = earlier ++ d.commands

section Logged

variable {earlier : List Command} {p q : Playback} {d : Diary} (h : Logged earlier p d)
include h

theorem Logged.congr (surface : q.surface = p.surface) : Logged earlier q d := by
  rw [Logged, surface]
  exact h

theorem Logged.write (cued : p.surface.Cued q.surface) :
    Logged earlier q (d.write (p.issued q)) := by
  rw [Logged, Diary.commands_write, ← List.append_assoc, ← h, issued_append cued]

theorem Logged.turnTo (e : Event) : Logged earlier (p.passing e) (d.turnTo p.player.index e) := by
  rw [Logged, Diary.commands_turnTo, passing_surface]
  exact h

theorem Logged.runThrough (left : List Event) :
    Logged earlier (p.runThrough left).2 (p.runThroughDiary d left) := by
  induction left generalizing p d with
  | nil => exact h.congr (note_surface p _)
  | cons e rest ih =>
    cases he : e.pacing with
    | immediate =>
      simp only [Playback.runThrough, runThroughDiary, he]
      exact ih ((h.turnTo e).write (apply_cued _ e))
    | blocking =>
      simp only [Playback.runThrough, runThroughDiary, he]
      exact (h.turnTo e).write (block_cued _ e)

theorem Logged.run : Logged earlier p.run.2 (p.runDiary d) := by
  unfold Playback.run runDiary
  cases p.player.timeline with
  | none => exact h
  | some timeline => exact h.runThrough _

theorem Logged.called {c : Call} {m : Progress × Playback} (called : p.call c = .ok m) :
    Logged earlier m.2 (p.callDiary d c m.2) := by
  obtain ⟨rfl, leads⟩ | stays := p.leads_or_stays c
  · obtain ⟨navigation, enabled, reveal⟩ := leadsOn_iff.1 leads
    cases called
    rw [callDiary_of_leads d leads, advance_run navigation enabled reveal]
    exact h.run.congr (settle_surface _ _)
  · rw [callDiary_of_stays d stays]
    exact h.write (call_cued called)

end Logged

theorem logged_startAt (p : Playback) (timeline : Timeline) (index : Nat) :
    Logged p.surface.log.toList (p.startAt timeline index).2 (p.startAtDiary timeline index) := by
  have readied : p.surface.Cued (p.readied timeline index).surface := by
    simpa [Playback.readied] using Surface.Cued.perform p.surface (.setAdvanceEnabled true) trivial
  have begun : Logged p.surface.log.toList (p.readied timeline index)
      { before := p.issued (p.readied timeline index) } := by
    rw [Logged, ← issued_append readied]
    simp [Diary.commands]
  exact begun.run

/-- After any calls there is a diary of them. Its turns are the events up to the cursor, and its
commands are those that the surface got since the timeline was begun. -/
theorem exists_diary {p : Playback} {timeline : Timeline} {first : Nat} {cs : List Call}
    {s : Progress × Playback} (h : calls (p.startAt timeline first) cs = .ok s) :
    ∃ d, callsDiary (p.startAt timeline first) (p.startAtDiary timeline first) cs = .ok (s, d) ∧
      Accounted timeline first s.2 d.events ∧
      s.2.surface.log.toList = p.surface.log.toList ++ d.commands := by
  obtain ⟨d, hd⟩ := exists_callsDiary h (p.startAtDiary timeline first)
  refine ⟨d, hd, ?_, ?_⟩
  · have begun : Accounted timeline first (p.startAt timeline first).2
        (p.startAtDiary timeline first).events := by
      rw [events_startAtDiary]
      exact accounted_startAt p timeline first
    refine callsDiary_invariant (fun q d => Accounted timeline first q d.events) ?_ hd begun
    intro q d c m accounted called
    obtain ⟨told, ht⟩ := exists_callTold called
    have after := accounted.called ht
    rwa [← events_callDiary d ht] at after
  · exact callsDiary_invariant (Logged p.surface.log.toList) (fun logged => logged.called) hd
      (logged_startAt p timeline first)

end VisualNovel.Playback
