import VisualNovel.Proofs.Session.Prompts

/-!
Presses that are refused. A host is not told what its gate answers; that nothing was left to look at
after a press tells it that the press was refused.
-/

namespace VisualNovel

/-- The answer of a gate to what is asked of it by a line, if it is asked. -/
def Gate.answerTo? (gate : Gate) : Session.Reply → Option Response
  | .press id => some (gate.press id).1
  | .confirm =>
    match gate with
    | .multi g => some (g.press g.confirmButton).1
    | .single _ => none
  | .advance | .quit | .unknown _ => none

namespace Session

variable {s t : Session} {gate : Gate} {g : Progress} {key text : String}

/-- A step prints what is new first. -/
theorem present_output (s : Session) (g : Progress) :
    ∃ rest, (s.present g).1.output = s.output ++ (s.look.1.text ++ rest) := by
  obtain ⟨told, -, same⟩ := s.flush.tellState_eq
  have flushed : s.flush.tellState.output = s.output ++ (s.look.1.text ++ told) := by
    rw [same, ← String.append_assoc]
    rfl
  -- each step prints some lines, or none, behind what was told
  have last : ∃ more, (s.present g).1.output = s.flush.tellState.output ++ more := by
    cases g with
    | navigate n =>
      change ∃ more, (s.flush.tellState.route n).1.output = _
      unfold route
      split
      · exact ⟨"", by simp⟩
      · exact ⟨_, rfl⟩
      · exact ⟨_, rfl⟩
    | waitChoice | stalled => exact ⟨_, String.append_assoc⟩
    | ended | finished | typing | waitInput => exact ⟨_, rfl⟩
  obtain ⟨more, printed⟩ := last
  exact ⟨told ++ more, by rw [printed, flushed]; simp only [String.append_assoc]⟩

/-- What is new begins with the timeline, if that is new. -/
theorem look_heading (new : s.view.newTimeline? s.playback.player.timelineKey = some key) :
    ∃ rest, s.look.1.text = "=== Timeline: " ++ rest := by
  have told : s.look.1.newTimeline = some key := new
  have lines : ∃ rest, s.look.1.lines = s!"=== Timeline: {key} ===" :: rest := by
    unfold Delta.lines
    rw [told]
    exact ⟨_, rfl⟩
  obtain ⟨rest, lines⟩ := lines
  refine ⟨key ++ " ===" ++ "\n" ++ linesText rest, ?_⟩
  rw [Delta.text, lines]
  change linesText _ = _
  rw [linesText_cons]
  simp only [String.append_assoc]
  rfl

/-- The answer of a fresh player is told behind the name of its timeline, but when a clock runs
over, nothing is. -/
theorem proceed_heading (new : s.view.newTimeline? s.playback.player.timelineKey = some key)
    (g : Progress) : ((s.proceed g).1.output = s.output ∧ (s.proceed g).2 = none) ∨
      ∃ rest, (s.proceed g).1.output = s.output ++ ("=== Timeline: " ++ rest) := by
  have presented {q : Session} (g : Progress) (output : q.output = s.output)
      (new : q.view.newTimeline? q.playback.player.timelineKey = some key) :
      ∃ rest, (q.present g).1.output = s.output ++ ("=== Timeline: " ++ rest) := by
    obtain ⟨rest, heading⟩ := look_heading new
    obtain ⟨more, printed⟩ := present_output q g
    exact ⟨rest ++ more, by rw [printed, heading, output]; simp only [String.append_assoc]⟩
  unfold proceed
  split
  · split
    · obtain ⟨rest, heading⟩ := look_heading new
      exact .inr ⟨rest, congrArg (s.output ++ ·) heading⟩
    · split
      · next progress p ticked =>
        have named : p.player.timelineKey = s.playback.player.timelineKey :=
          Playback.step_timelineKey (Playback.call_step (c := .tick _) ticked)
        exact .inr (presented (q := { s with playback := p }) progress rfl (named ▸ new))
      · exact .inl ⟨rfl, rfl⟩
  · exact .inr (presented _ rfl new)

/-- Nothing is printed when a timeline cannot be begun, and otherwise its name comes first. -/
theorem activate_heading (s : Session) (key : String) (index : Nat) :
    ((s.activate key index).1.output = s.output ∧ (s.activate key index).2 = none) ∨
      ∃ rest, (s.activate key index).1.output = s.output ++ ("=== Timeline: " ++ rest) := by
  rw [activate_eq]
  unfold Session.begun?
  cases started : s.renew.playback.startNamed s.registry key index with
  | error e => exact .inl ⟨rfl, rfl⟩
  | ok m =>
    obtain ⟨timeline, -, same⟩ := Playback.startNamed_ok started
    have named : m.2.player.timelineKey = some key := by
      rw [same]
      exact Playback.startAt_timelineKey _ timeline index
    have new : s.renew.view.newTimeline? m.2.player.timelineKey = some key := by
      rw [named]
      rfl
    exact proceed_heading (s := { s.renew with playback := m.2 }) new m.1

theorem follow_output (patience : Nat) (n : Next) :
    ∃ text, (follow patience n).output = n.1.output ++ text := by
  induction patience generalizing n with
  | zero =>
    obtain ⟨s, next⟩ := n
    cases next with
    | none => exact ⟨"", by simp [follow]⟩
    | some key => exact ⟨"", by simp [follow, finish, noteRestart]⟩
  | succ patience ih =>
    obtain ⟨s, next⟩ := n
    cases next with
    | none => exact ⟨"", by simp [follow]⟩
    | some key =>
      obtain ⟨text, printed⟩ := ih ((s.noteRestart key).activate key 0)
      obtain ⟨same, -⟩ | ⟨rest, heading⟩ := (s.noteRestart key).activate_heading key 0
      · exact ⟨text, by rw [follow, printed, same]; rfl⟩
      · refine ⟨"=== Timeline: " ++ rest ++ text, ?_⟩
        rw [follow, printed, heading, String.append_assoc]
        rfl

theorem follow_heading (patience : Nat) (s : Session) (key : String) :
    ∃ text, (follow (patience + 1) (s, some key)).output = s.output ++ text ∧
      (text = "" ∨ ∃ rest, text = "=== Timeline: " ++ rest) := by
  obtain ⟨same, last⟩ | ⟨rest, heading⟩ := (s.noteRestart key).activate_heading key 0
  · refine ⟨"", ?_, .inl rfl⟩
    rw [follow, show (s.noteRestart key).activate key 0 = (_, none) from Prod.ext rfl last,
      follow_none, same]
    simp [noteRestart]
  · obtain ⟨text, printed⟩ := follow_output patience ((s.noteRestart key).activate key 0)
    refine ⟨"=== Timeline: " ++ (rest ++ text), ?_, .inr ⟨_, rfl⟩⟩
    rw [follow, printed, heading]
    simp only [String.append_assoc]
    rfl

/-- The text tells first of all that a press was refused. -/
def TellsRefusal (text : String) : Prop := ∃ rest, text = "(not accepted)\n" ++ rest

/-- Something else is printed, or nothing. -/
def TellsOther (text : String) : Prop := text.toList.head? ≠ some '('

theorem TellsOther.not_refusal (other : TellsOther text) : ¬ TellsRefusal text := by
  rintro ⟨rest, rfl⟩
  exact other (by simp)

theorem TellsState.tellsOther {told later : String} (tells : s.TellsState told)
    (other : TellsOther later) : TellsOther (told ++ later) := by
  unfold TellsState at tells
  split at tells
  · obtain ⟨rest, rfl⟩ := tells
    simp [TellsOther]
  · rw [tells, String.empty_append]
    exact other

theorem tellsOther_menu (s : Session) : TellsOther (linesText s.menu ++ "> ") := by
  rw [menu, List.cons_append, linesText_cons]
  simp [TellsOther]

theorem Choosing.press_refused (choosing : s.Choosing gate) {id : Nat} {reason : Gate.Refusal}
    (pressed : (gate.press id).1 = .refused reason) :
    ∃ t, AsksAgain s gate ["(not accepted)"] t ∧ s.pressButton id = (t, none) := by
  let p : Playback := ({ s.playback with
    player.gate := some (gate.press id).2 } : Playback).note (.pressRefused id reason)
  have answer : s.playback.press id = (.waitChoice, p) := by
    rw [Playback.press_gated id choosing.navigation choosing.gated, pressed, ← choosing.waiting]
    rfl
  have kept : (gate.press id).2 = gate := Gate.press_kept fun option state => by simp [pressed]
  have player : p.player = s.playback.player := by
    simp only [p, Playback.note_player, kept, ← choosing.gated]
  have surface : p.surface = s.playback.surface := Playback.note_surface _ _
  obtain ⟨t, again, asked⟩ := choosing.asksAgain player surface ["(not accepted)"]
  refine ⟨t, again, ?_⟩
  unfold pressButton
  simp only [answer, surface, choosing.looked]
  exact asked

theorem Choosing.log_performed (choosing : s.Choosing gate) {p : Playback} {c : Command}
    (surface : p.surface = s.playback.surface.perform c) : p.surface.log.toList = [c] := by
  rw [surface, Surface.log_perform, choosing.looked]
  rfl

/-- A press that is not refused leaves something to look at, or the choice is over. -/
theorem Choosing.press_accepted (choosing : s.Choosing gate) {id : Nat}
    (accepted : ∀ reason, (gate.press id).1 ≠ .refused reason) (patience : Nat) :
    ∃ text, (follow (patience + 1) (s.pressButton id)).output = s.output ++ text ∧
      TellsOther text := by
  have step := Playback.press_step s.playback id
  unfold pressButton
  generalize s.playback.press id = m at step ⊢
  obtain ⟨g, p⟩ := m
  dsimp only at step ⊢
  let q : Session := { s with playback := p }
  have told : q.view.newTimeline? q.playback.player.timelineKey = none := by
    rw [Playback.step_timelineKey step]
    exact choosing.told
  cases step with
  | finished navigation same => cases choosing.navigation.symm.trans navigation
  | ungated navigation ungated same => cases choosing.gated.symm.trans ungated
  | refused navigation gated pressed player surface =>
    cases choosing.gated.symm.trans gated
    exact (accepted _ pressed).elim
  | toggled navigation gated pressed player surface =>
    have log := choosing.log_performed surface
    have filled : p.surface.log.isEmpty = false := by
      rw [← Array.isEmpty_toList, log]
      rfl
    have control : ∀ c ∈ q.playback.surface.log.toList, c.isControl = true := by
      simp [q, log, Command.isControl]
    obtain ⟨text, tells, shown⟩ := present_control told control
    refine ⟨text ++ (linesText q.menu ++ "> "), ?_, tells.tellsOther q.tellsOther_menu⟩
    simp only [choosing.waiting, filled, Bool.false_eq_true, if_false]
    change (follow (patience + 1) (q.present .waitChoice)).output = _
    rw [shown, follow_none, String.append_assoc]
  | resolved navigation gated pressed player surface =>
    have control : ∀ c ∈ q.playback.surface.log.toList, c.isControl = true := by
      simp [q, surface, choosing.looked]
    obtain ⟨text, tells, shown⟩ := tellState_control told control
    obtain ⟨later, printed, heading⟩ := follow_heading patience q.flush.tellState _
    refine ⟨text ++ later, ?_, tells.tellsOther ?_⟩
    · refine printed.trans ?_
      rw [shown]
      exact String.append_assoc
    · obtain rfl | ⟨rest, rfl⟩ := heading <;> simp [TellsOther]
  | fellBack navigation gated pressed player surface =>
    have log := choosing.log_performed surface
    have control : ∀ c ∈ q.playback.surface.log.toList, c.isControl = true := by
      simp [q, log, Command.isControl]
    obtain ⟨text, tells, shown⟩ := tellState_control told control
    refine ⟨text ++ "> ", ?_, tells.tellsOther (by simp [TellsOther])⟩
    change (follow (patience + 1) (q.flush.tellState.prompt, none)).output = _
    rw [follow_none, shown]
    exact String.append_assoc

theorem AsksAgain.tells {lines : List String} (again : AsksAgain s gate lines t)
    (other : ∀ line ∈ lines.head?, TellsOther line) :
    ∃ text, t.output = s.output ++ text ∧ TellsOther text := by
  obtain ⟨told, tells, printed⟩ := again.printed
  refine ⟨_, printed, ?_⟩
  simp only [String.append_assoc]
  cases lines with
  | nil => exact tells.tellsOther s.tellsOther_menu
  | cons line rest =>
    have first := other line rfl
    rw [linesText_cons]
    unfold TellsOther at first ⊢
    simp only [String.toList_append, List.append_assoc]
    cases chars : line.toList with
    | nil => simp
    | cons c cs =>
      rw [chars] at first
      exact first

theorem Choosing.obey_asked (choosing : s.Choosing gate) {reply : Reply}
    {response : Gate.Response} (asked : gate.answerTo? reply = some response) :
    ∃ id, (gate.press id).1 = response ∧ s.obey reply = s.pressButton id := by
  cases reply with
  | press id => exact ⟨id, Option.some.inj asked, rfl⟩
  | confirm =>
    cases gate with
    | single g => cases asked
    | multi g =>
      refine ⟨g.confirmButton, Option.some.inj asked, ?_⟩
      simp only [obey, choosing.gated]
  | advance | quit | unknown text => cases asked

/-- A line that asks for no button is answered with something else than a refusal. -/
theorem Choosing.obey_unasked (choosing : s.Choosing gate) {reply : Reply}
    (unasked : gate.answerTo? reply = none) (patience : Nat) :
    ∃ text, (follow (patience + 1) (s.obey reply)).output = s.output ++ text ∧
      TellsOther text := by
  cases reply with
  | press id => cases unasked
  | quit =>
    refine ⟨linesText ["Goodbye!"], ?_, by simp [TellsOther, linesText_cons]⟩
    rw [obey, follow_none]
    rfl
  | advance =>
    obtain ⟨t, again, asked⟩ := choosing.asksAgain (p := s.playback.note .advanceIgnored)
      (Playback.note_player _ _) (Playback.note_surface _ _) []
    have ignored := Playback.advance_ignored choosing.navigation choosing.enabled
    have obeyed : s.obey .advance = (t, none) := by
      have unsaid (q : Session) : q.printLines [] = q := by simp [printLines, print]
      rw [unsaid] at asked
      simp only [obey, ignored, choosing.waiting]
      exact asked
    rw [obeyed, follow_none]
    exact again.tells (by simp)
  | confirm =>
    cases gate with
    | multi g => cases unasked
    | single g =>
      obtain ⟨t, again, asked⟩ := choosing.asksAgain (p := s.playback) rfl rfl
        ["Nothing to confirm."]
      have obeyed : s.obey .confirm = (t, none) := by
        simp only [obey, choosing.gated, choosing.waiting]
        exact asked
      rw [obeyed, follow_none]
      exact again.tells (by simp [TellsOther])
  | unknown typed =>
    obtain ⟨t, again, asked⟩ := choosing.obey_unknown typed
    rw [asked, follow_none]
    refine again.tells ?_
    rintro _ ⟨⟩
    change TellsOther ("Invalid input '" ++ typed ++ "'. Press Enter, 1-9, 'c' or 'q'.")
    simp [TellsOther]

/-- A line is answered with a refusal exactly when the gate refuses what the line asks of it. -/
theorem Choosing.feed_tells (choosing : s.Choosing gate) (content : String) :
    ∃ text, (s.feed (.text content)).output = s.output ++ text ∧
      (TellsRefusal text ↔ ∃ reason, gate.answerTo? (.ofLine content) = some (.refused reason)) ∧
      ∀ reason, gate.answerTo? (.ofLine content) = some (.refused reason) →
        AsksAgain s gate ["(not accepted)"] (s.feed (.text content)) := by
  have fed : s.feed (.text content) =
      follow (maxIdleRestarts + 1) (s.obey (.ofLine content)) := by
    rw [feed, choosing.prompting]
  rw [fed]
  by_cases refused : ∃ reason, gate.answerTo? (.ofLine content) = some (.refused reason)
  · obtain ⟨reason, asked⟩ := refused
    obtain ⟨id, answer, pressed⟩ := choosing.obey_asked asked
    obtain ⟨t, again, asks⟩ := choosing.press_refused answer
    obtain ⟨told, -, printed⟩ := again.printed
    rw [pressed, asks, follow_none]
    refine ⟨_, printed, iff_of_true ⟨told ++ linesText s.menu ++ "> ", ?_⟩ ⟨reason, asked⟩,
      fun _ _ => again⟩
    rw [linesText_cons]
    simp only [String.append_assoc]
    rfl
  · have tells : ∃ text, (follow (maxIdleRestarts + 1) (s.obey (.ofLine content))).output =
        s.output ++ text ∧ TellsOther text := by
      cases asked : gate.answerTo? (.ofLine content) with
      | none => exact choosing.obey_unasked asked maxIdleRestarts
      | some response =>
        obtain ⟨id, answer, pressed⟩ := choosing.obey_asked asked
        rw [pressed]
        refine choosing.press_accepted (fun reason same => refused ⟨reason, ?_⟩) maxIdleRestarts
        rw [asked, ← answer, same]
    obtain ⟨text, printed, other⟩ := tells
    exact ⟨text, printed, iff_of_false other.not_refusal refused,
      fun reason asked => (refused ⟨reason, asked⟩).elim⟩

/-- Whenever a choice is asked for, a line is answered with a refusal exactly when the gate refuses
what the line asks of it. Then nothing is changed, and the same choice is asked for again. -/
theorem refusal_told_iff {r : Registry} {config : Config} {options : Options}
    {streams : Nat → Random} {inputs : List Input}
    (prompting : ((start r config options streams).takes inputs).phase = .prompting)
    (waiting : ((start r config options streams).takes inputs).playback.player.progress =
      .waitChoice) (content : String) :
    let s := (start r config options streams).takes inputs
    ∃ gate text, s.playback.player.gate = some gate ∧
      (s.feed (.text content)).output = s.output ++ text ∧
      (TellsRefusal text ↔ ∃ reason, gate.answerTo? (.ofLine content) = some (.refused reason)) ∧
      ∀ reason, gate.answerTo? (.ofLine content) = some (.refused reason) →
        AsksAgain s gate ["(not accepted)"] (s.feed (.text content)) := by
  obtain ⟨-, gate, choosing⟩ := choosing_takes prompting waiting
  obtain ⟨text, printed, told_iff, again⟩ := choosing.feed_tells content
  exact ⟨gate, text, choosing.gated, printed, told_iff, again⟩

/-- A set of two options of which one has to be selected and no more may be. -/
def pickOne : Registry :=
  Registry.insert {} "start" [.multiChoice {
    choices := [⟨"A", true, false, none⟩, ⟨"B", false, false, none⟩]
    correctKey := "start"
    incorrectKey := "start"
    minSelect := 1
    maxSelect := some 1 }]

/-- Nothing is selected that could be confirmed; after the first option is selected, the second one
is refused. -/
theorem pick_one_refused :
    let s := (start pickOne .default {}).takes []
    let t := (start pickOne .default {}).takes [.line (.text "1\n")]
    (s.phase = .prompting ∧ s.playback.player.progress = .waitChoice ∧
      ∃ gate text, s.playback.player.gate = some gate ∧
        gate.answerTo? (.ofLine "c\n") = some (.refused .belowMinimum) ∧
        (s.feed (.text "c\n")).output = s.output ++ text ∧ TellsRefusal text) ∧
      t.phase = .prompting ∧ t.playback.player.progress = .waitChoice ∧
      ∃ gate text, t.playback.player.gate = some gate ∧
        gate.answerTo? (.ofLine "2\n") = some (.refused .rejected) ∧
        (t.feed (.text "2\n")).output = t.output ++ text ∧ TellsRefusal text := by
  have confirms : Reply.ofLine "c\n" = .confirm := by decide +kernel
  have second : Reply.ofLine "2\n" = .press 1 := by decide +kernel
  refine ⟨?_, ?_⟩
  · have prompting : ((start pickOne .default {}).takes []).phase = .prompting := rfl
    have waiting : ((start pickOne .default {}).takes []).playback.player.progress =
      .waitChoice := rfl
    obtain ⟨gate, text, gated, printed, told_iff, -⟩ := refusal_told_iff prompting waiting "c\n"
    have answer : gate.answerTo? (.ofLine "c\n") = some (.refused .belowMinimum) := by
      rw [confirms]
      cases gated
      rfl
    exact ⟨prompting, waiting, gate, text, gated, answer, printed, told_iff.2 ⟨_, answer⟩⟩
  · have prompting : ((start pickOne .default {}).takes [.line (.text "1\n")]).phase =
      .prompting := rfl
    have waiting : ((start pickOne .default {}).takes
      [.line (.text "1\n")]).playback.player.progress = .waitChoice := rfl
    obtain ⟨gate, text, gated, printed, told_iff, -⟩ := refusal_told_iff prompting waiting "2\n"
    have answer : gate.answerTo? (.ofLine "2\n") = some (.refused .rejected) := by
      rw [second]
      cases gated
      rfl
    exact ⟨prompting, waiting, gate, text, gated, answer, printed, told_iff.2 ⟨_, answer⟩⟩

end Session

end VisualNovel
