import VisualNovel.Proofs.Playback.Told

/-!
What the records of a run tell: which events were carried out, and with which timelines the host
went on. The latter are recorded by the host alone, and kept by every filter.
-/

namespace VisualNovel

namespace Log.Entry

def restart? : Log.Entry → Option String
  | .restarting key => some key
  | _ => none

def dispatch? : Log.Entry → Option (Nat × String)
  | .dispatched index tag => some (index, tag)
  | _ => none

/-- A record of something that comes of an event or of a call. -/
def isIncident : Log.Entry → Bool
  | .restarting _ => false
  | .dispatched _ _ => false
  | _ => true

/-- Nothing is told of what comes of events and calls. -/
def Spares {α : Type} (tells : Log.Entry → Option α) : Prop :=
  ∀ e, e.isIncident = true → tells e = none

theorem restart?_spares : Spares restart? := by
  intro e incident
  cases e <;> first | rfl | cases incident

theorem dispatch?_spares : Spares dispatch? := by
  intro e incident
  cases e <;> first | rfl | cases incident

end Log.Entry

namespace Playback

/-- What the records tell, in their order. -/
def recorded {α : Type} (tells : Log.Entry → Option α) (p : Playback) : List α :=
  p.records.toList.filterMap tells

/-- What the records of some dispatches tell, if such records are kept. -/
def recordsOf {α : Type} (tells : Log.Entry → Option α) (p : Playback)
    (told : List (Nat × Event)) : List α :=
  if p.player.config.log.allows .engine then
    told.filterMap fun d => tells (.dispatched d.1 d.2.tag)
  else []

section Recorded

variable {α : Type} {tells : Log.Entry → Option α}

theorem records_note (p : Playback) (e : Log.Entry) : (p.note e).records.toList =
    p.records.toList ++ if p.player.config.log.keeps e then [e] else [] := by
  unfold note
  split <;> simp

theorem note_recorded (p : Playback) {e : Log.Entry} (h : tells e = none) :
    (p.note e).recorded tells = p.recorded tells := by
  rw [recorded, records_note]
  split <;> simp [recorded, h]

theorem passing_recorded (p : Playback) (e : Event) :
    (p.passing e).recorded tells = p.recorded tells ++ p.recordsOf tells [(p.player.index, e)] := by
  have kept : p.player.config.log.keeps (.dispatched p.player.index e.tag) =
      p.player.config.log.allows .engine := rfl
  have records : (p.passing e).records.toList = p.records.toList ++
      if p.player.config.log.allows .engine then [.dispatched p.player.index e.tag] else [] :=
    kept ▸ records_note p _
  rw [recorded, records, recordsOf]
  split <;> simp [recorded, List.filterMap_cons]

theorem recordsOf_append (p : Playback) (a b : List (Nat × Event)) :
    p.recordsOf tells (a ++ b) = p.recordsOf tells a ++ p.recordsOf tells b := by
  unfold recordsOf
  split <;> simp

@[simp] theorem recordsOf_nil (p : Playback) : p.recordsOf tells [] = [] := by simp [recordsOf]

theorem recordsOf_congr {p q : Playback} (h : q.player.config = p.player.config)
    (told : List (Nat × Event)) : q.recordsOf tells told = p.recordsOf tells told := by
  simp only [recordsOf, h]

variable (spares : Log.Entry.Spares tells)
include spares

theorem navigate_recorded (p : Playback) (n : Navigation) :
    (p.navigate n).2.recorded tells = p.recorded tells := note_recorded p (spares _ rfl)

theorem apply_recorded (p : Playback) (e : Event) :
    (p.apply e).recorded tells = p.recorded tells := by
  cases e with
  | setBackground image => exact note_recorded p (spares _ rfl)
  | addForeground image => exact note_recorded p (spares _ rfl)
  | playSound cue =>
    simp only [apply]
    split
    · exact note_recorded p (spares _ rfl)
    · rfl
  | clearSound key =>
    simp only [apply]
    split <;> rfl
  | _ => rfl

omit spares in
theorem showLine_recorded (p : Playback) (line : DialogLine) :
    (p.showLine line).2.recorded tells = p.recorded tells := by
  unfold showLine
  dsimp only
  split <;> rfl

theorem openGate_recorded (p : Playback) (g : Gate) :
    (p.openGate g).2.recorded tells = p.recorded tells := note_recorded _ (spares _ rfl)

theorem block_recorded (p : Playback) (e : Event) :
    (p.block e).2.recorded tells = p.recorded tells := by
  cases e with
  | dialog line => exact showLine_recorded p line
  | timelineTransition key => exact navigate_recorded spares p _
  | sceneTransition jump => exact navigate_recorded spares p _
  | choice options =>
    simp only [block]
    split
    · rfl
    · exact openGate_recorded spares p _
  | multiChoice set =>
    simp only [block]
    split
    · rfl
    · exact (openGate_recorded spares _ _).trans (note_recorded _ (spares _ rfl))
  | unknown => exact note_recorded p (spares _ rfl)
  | showWebLink link => rfl
  | _ => exact apply_recorded spares p _

theorem runThroughTold_recorded (p : Playback) (left : List Event) :
    (p.runThroughTold left).1.2.recorded tells =
      p.recorded tells ++ p.recordsOf tells (p.runThroughTold left).2 := by
  induction left generalizing p with
  | nil => simpa [runThroughTold] using note_recorded p (spares _ rfl)
  | cons e rest ih =>
    cases he : e.pacing with
    | immediate =>
      have same (told : List (Nat × Event)) :
          ((p.passing e).apply e).recordsOf tells told = p.recordsOf tells told :=
        recordsOf_congr (by simp) told
      simp only [runThroughTold, he]
      rw [ih, apply_recorded spares, passing_recorded, same, List.append_assoc,
        ← recordsOf_append]
      rfl
    | blocking =>
      simp only [runThroughTold, he]
      rw [block_recorded spares, passing_recorded]

theorem runTold_recorded (p : Playback) :
    p.runTold.1.2.recorded tells = p.recorded tells ++ p.recordsOf tells p.runTold.2 := by
  unfold runTold
  split
  · simp
  · exact runThroughTold_recorded spares p _

theorem startAtTold_recorded (p : Playback) (timeline : Timeline) (index : Nat) :
    (p.startAtTold timeline index).1.2.recorded tells =
      p.recorded tells ++ p.recordsOf tells (p.startAtTold timeline index).2 := by
  unfold startAtTold
  dsimp only
  refine (runTold_recorded spares _).trans ?_
  rw [note_recorded _ (spares _ rfl), recordsOf_congr (p := p) (by simp)]
  rfl

theorem respond_recorded (p : Playback) (id : Nat) (response : Gate.Response) :
    (p.respond id response).2.recorded tells = p.recorded tells := by
  cases response with
  | refused reason => exact note_recorded p (spares _ rfl)
  | toggled option state => exact note_recorded p (spares _ rfl)
  | resolved destination verdict =>
    cases verdict with
    | none => exact navigate_recorded spares p _
    | some v => exact (navigate_recorded spares _ _).trans (note_recorded p (spares _ rfl))
  | fallback verdict => exact note_recorded p (spares _ rfl)

theorem advanceTold_recorded (p : Playback) :
    p.advanceTold.1.2.recorded tells = p.recorded tells ++ p.recordsOf tells p.advanceTold.2 := by
  unfold advanceTold
  split
  · simp
  · split
    · simpa using note_recorded p (spares _ rfl)
    · split
      · rw [recordsOf_nil, List.append_nil]
        exact note_recorded _ (spares _ rfl)
      · exact runTold_recorded spares p

theorem press_recorded (p : Playback) (id : Nat) :
    (p.press id).2.recorded tells = p.recorded tells := by
  unfold press
  split
  · rfl
  · split
    · rfl
    · exact respond_recorded spares _ id _

omit spares in
theorem tick_recorded {p : Playback} {time : Duration} {r : Progress × Playback}
    (h : p.tick time = .ok r) : r.2.recorded tells = p.recorded tells := by
  unfold tick at h
  split at h
  · cases h
    rfl
  · split at h
    · cases h
      rfl
    · simp only [bind, Except.bind] at h
      split at h
      · cases h
      · split at h <;> cases h <;> split <;> rfl

theorem callTold_recorded {p : Playback} {c : Call} {t : Told} (h : p.callTold c = .ok t) :
    t.1.2.recorded tells = p.recorded tells ++ p.recordsOf tells t.2 := by
  cases c with
  | advance =>
    cases h
    exact advanceTold_recorded spares p
  | press id =>
    cases h
    simpa using press_recorded spares p id
  | tick time =>
    simp only [callTold] at h
    cases ticked : p.tick time with
    | error e => rw [ticked] at h; cases h
    | ok r =>
      rw [ticked] at h
      cases h
      simpa using tick_recorded ticked

end Recorded

/-- The timelines that the host went on with, in their order. -/
def restarts (p : Playback) : List String := p.records.toList.filterMap Log.Entry.restart?

theorem note_restarting (p : Playback) (key : String) :
    (p.note (.restarting key)).restarts = p.restarts ++ [key] := by
  simp [note, Log.Filter.keeps, Log.Entry.category, restarts, Log.Entry.restart?]

@[simp] theorem recordsOf_restart? (p : Playback) (told : List (Nat × Event)) :
    p.recordsOf Log.Entry.restart? told = [] := by
  simp [recordsOf, Log.Entry.restart?]

@[simp] theorem startAt_restarts (p : Playback) (timeline : Timeline) (index : Nat) :
    (p.startAt timeline index).2.restarts = p.restarts := by
  have told := startAtTold_recorded Log.Entry.restart?_spares p timeline index
  rwa [recordsOf_restart?, List.append_nil, startAtTold_fst] at told

theorem call_restarts {p : Playback} {c : Call} {r : Progress × Playback}
    (h : p.call c = .ok r) : r.2.restarts = p.restarts := by
  obtain ⟨told, ht⟩ := exists_callTold h
  have same := callTold_recorded Log.Entry.restart?_spares ht
  rwa [recordsOf_restart?, List.append_nil] at same

end Playback

end VisualNovel
