import VisualNovel.Proofs.Playback.Records
import VisualNovel.Session.Step

namespace VisualNovel

/-- The player after its host took the commands of its surface. -/
def Playback.looked (p : Playback) : Playback := { p with surface := p.surface.takeLog.2 }

@[simp] theorem Playback.looked_restarts (p : Playback) : p.looked.restarts = p.restarts := rfl

namespace Session

@[simp] theorem printLines_registry (s : Session) (lines : List String) :
    (s.printLines lines).registry = s.registry := rfl

@[simp] theorem printLines_playback (s : Session) (lines : List String) :
    (s.printLines lines).playback = s.playback := rfl

@[simp] theorem finish_registry (s : Session) (result : Except Failure Outcome) :
    (s.finish result).registry = s.registry := rfl

@[simp] theorem finish_playback (s : Session) (result : Except Failure Outcome) :
    (s.finish result).playback = s.playback := rfl

@[simp] theorem finish_result (s : Session) (result : Except Failure Outcome) :
    (s.finish result).result? = some result := rfl

@[simp] theorem prompt_registry (s : Session) : s.prompt.registry = s.registry := rfl

@[simp] theorem prompt_playback (s : Session) : s.prompt.playback = s.playback := rfl

@[simp] theorem prompt_result (s : Session) : s.prompt.result? = none := rfl

@[simp] theorem showButtons_registry (s : Session) : s.showButtons.registry = s.registry := rfl

@[simp] theorem showButtons_playback (s : Session) : s.showButtons.playback = s.playback := rfl

@[simp] theorem finish_view (s : Session) (result : Except Failure Outcome) :
    (s.finish result).view = s.view := rfl

@[simp] theorem noteRestart_view (s : Session) (key : String) :
    (s.noteRestart key).view = s.view := rfl

@[simp] theorem noteRestart_surface (s : Session) (key : String) :
    (s.noteRestart key).playback.surface = s.playback.surface := s.playback.note_surface _

@[simp] theorem noteRestart_restarts (s : Session) (key : String) :
    (s.noteRestart key).playback.restarts = s.playback.restarts ++ [key] :=
  Playback.note_restarting s.playback key

theorem exists_told (s : Session) : ∃ t : Session, t.registry = s.registry ∧
    t.options = s.options ∧ t.playback = s.playback.looked ∧ t.result? = s.result? ∧
      t = if s.flush.options.debug then s.flush.showState else s.flush := by
  cases debug : s.flush.options.debug with
  | true => exact ⟨s.flush.showState, rfl, rfl, rfl, rfl, rfl⟩
  | false => exact ⟨s.flush, rfl, rfl, rfl, rfl, rfl⟩

/-- What is shown changes neither the player nor the registry, and a step that was made is no
failure. -/
theorem present_kept (s : Session) (g : Progress) :
    (s.present g).1.registry = s.registry ∧ (s.present g).1.playback = s.playback.looked ∧
      ∀ f, (s.present g).1.result? = some (.error f) → s.result? = some (.error f) := by
  obtain ⟨t, registry, -, playback, result, told⟩ := exists_told s
  unfold present
  dsimp only
  rw [← told]
  cases g with
  | navigate n =>
    simp only [route]
    split <;> simp [registry, playback, result]
  | _ => simp [registry, playback]

/-- The host goes on with another timeline after a navigation that leads there. -/
theorem present_next {s : Session} {g : Progress} {key : String}
    (h : (s.present g).2 = some key) :
    ∃ n, g = .navigate n ∧ Route.ofNavigation n = .restart key := by
  cases g with
  | navigate n =>
    simp only [present, route] at h
    split at h
    · next timeline restart =>
      cases h
      exact ⟨n, rfl, restart⟩
    · cases h
    · cases h
  | _ => cases h

theorem proceed_eq_present {g : Progress} (other : g ≠ .typing) (s : Session) :
    s.proceed g = s.present g := by
  unfold proceed
  split
  · exact (other rfl).elim
  · rfl

theorem follow_none (patience : Nat) (s : Session) : follow patience (s, none) = s := by
  cases patience <;> rfl

/-- What a session can be given: a line, some time, or the news that no more lines come. -/
inductive Input where
  | line (line : Line)
  | time (time : Duration)
  | closed

def take (s : Session) : Input → Session
  | .line line => s.feed line
  | .time time => s.wake time
  | .closed => s.endInput

def takes (s : Session) (inputs : List Input) : Session := inputs.foldl take s

theorem takes_append (s : Session) (a b : List Input) :
    s.takes (a ++ b) = (s.takes a).takes b := List.foldl_append

theorem watchFor_takes (count : Nat) (s : Session) :
    ∃ inputs, s.watchFor count = s.takes inputs := by
  induction count generalizing s with
  | zero => exact ⟨[], rfl⟩
  | succ count ih =>
    unfold watchFor
    split
    · obtain ⟨inputs, h⟩ := ih (s.wake s.wakeInterval)
      exact ⟨.time s.wakeInterval :: inputs, h⟩
    · exact ⟨[], rfl⟩

theorem play_takes (s : Session) (lines : List Line) : ∃ inputs, s.play lines = s.takes inputs := by
  -- each line is followed by as much time as its line of dialog takes
  have fed : ∀ s : Session, ∃ inputs,
      lines.foldl (fun s line => (s.feed line).watch) s = s.takes inputs := by
    induction lines with
    | nil => exact fun s => ⟨[], rfl⟩
    | cons line rest ih =>
      intro s
      obtain ⟨watched, hwatched⟩ := watchFor_takes _ (s.feed line)
      obtain ⟨later, hlater⟩ := ih (s.feed line).watch
      refine ⟨.line line :: watched ++ later, ?_⟩
      rw [List.cons_append, List.foldl_cons, hlater, watch, hwatched, ← takes_append]
      rfl
  obtain ⟨watched, hwatched⟩ := watchFor_takes _ s
  obtain ⟨inputs, hinputs⟩ := fed s.watch
  refine ⟨watched ++ inputs ++ [.closed], ?_⟩
  rw [play, hinputs, watch, hwatched, takes_append, takes_append]
  rfl

end Session

end VisualNovel
