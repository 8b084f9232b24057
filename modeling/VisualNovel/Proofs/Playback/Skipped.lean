import VisualNovel.Proofs.Playback.Behind
import VisualNovel.Proofs.Playback.Control
import VisualNovel.Proofs.Playback.Lines

namespace VisualNovel

open Duration (total)

namespace Reveal

/-- All of a text is due after its characters' time, unless no time has begun to go by. -/
theorem length_le_dueAfter_iff {text : String} (nonempty : text ≠ "") (interval : Duration)
    (times : List Duration) : text.length ≤ dueAfter text interval times ↔
      times ≠ [] ∧ text.length * interval.nanos ≤ total times := by
  unfold dueAfter
  split
  · next instant =>
    cases times with
    | nil => simp [nonempty]
    | cons time rest => simp [instant]
  · next slow =>
    have positive := Nat.pos_of_ne_zero slow
    rw [← Nat.le_div_iff_mul_le positive]
    cases times with
    | nil => simp [nonempty]
    | cons time rest =>
      rw [Nat.le_min]
      simp

theorem After.isComplete_iff {text : String} {interval : Duration} {times : List Duration}
    {r : Reveal} (after : After text interval times r) (nonempty : text ≠ "")
    (countable : Countable interval times) : r.isComplete = true ↔
      times ≠ [] ∧ text.length * interval.nanos ≤ total times := by
  rw [← length_le_dueAfter_iff nonempty, ← after.shown countable, isComplete, charCount,
    after.tells, decide_eq_true_iff]

theorem tickAll_of_complete {r : Reveal} (complete : r.isComplete = true) (times : List Duration) :
    ∃ answers, r.tickAll times = .ok (answers, r) := by
  induction times with
  | nil => exact ⟨[], rfl⟩
  | cons time rest ih =>
    obtain ⟨answers, going⟩ := ih
    have ticked : r.tick time = .ok (false, r) := by rw [tick, if_pos complete]
    refine ⟨false :: answers, ?_⟩
    simp only [tickAll, ticked, going]
    rfl

end Reveal

namespace Surface

theorem stage_texts (s : Surface) (style : TextStyle) (texts : List String) :
    (s.performAll (texts.map (.setDialogText · style))).stage =
      { s.stage with dialogText := texts.getLast?.getD s.stage.dialogText } := by
  induction texts generalizing s with
  | nil => rfl
  | cons text rest ih =>
    rw [List.map_cons, performAll_cons, ih, List.getLast?_cons]
    rfl

end Surface

namespace Playback

/-- The player while a line is shown, after some parts of its text. -/
def halfway (p : Playback) (r : Reveal) (parts : List String) : Playback :=
  { p with
    player.reveal := some r
    surface := p.surface.performAll (parts.map (.setDialogText · p.player.dialogStyle)) }

/-- The player when a line is complete, after some parts of its text and the whole text. -/
def through (p : Playback) (text : String) (parts : List String) : Playback :=
  { p with
    player.reveal := none
    player.progress := .waitInput
    surface := p.surface.performAll
      ((parts ++ [text]).map (.setDialogText · p.player.dialogStyle)) }

theorem completed_halfway (p : Playback) (r : Reveal) (parts : List String) :
    (p.halfway r parts).completed r = p.through r.text parts := by
  simp [completed, halfway, through, Surface.performAll_append]

section Ticks

variable {p : Playback} (navigation : p.player.navigation = none)
include navigation

theorem through_ticks (text : String) (parts : List String) (times : List Duration) :
    calls (.waitInput, p.through text parts) (times.map .tick) =
      .ok (.waitInput, p.through text parts) := by
  induction times with
  | nil => rfl
  | cons time rest ih =>
    refine calls_cons.2 ⟨_, ?_, ih⟩
    simp [call, tick, through, navigation]

variable {r : Reveal} {times : List Duration}

theorem halfway_showing {later : Reveal} {time : Duration} {more : Bool} (parts : List String)
    (ticked : r.tick time = .ok (more, later)) (incomplete : later.isComplete = false) :
    (p.halfway r parts).tick time =
      .ok (.typing, p.halfway later (parts ++ later.news more)) := by
  unfold tick
  rw [if_neg (by simp [halfway, navigation])]
  simp only [halfway, ticked, bind, Except.bind, pure, Except.pure, incomplete]
  cases more with
  | true => simp [Reveal.news, perform, Surface.performAll_append]
  | false => simp [Reveal.news]

theorem halfway_complete {later : Reveal} {time : Duration} {more : Bool} (parts : List String)
    (hidden : r.isComplete = false) (ticked : r.tick time = .ok (more, later))
    (complete : later.isComplete = true) :
    (p.halfway r parts).tick time = .ok (.waitInput, p.through r.text parts) := by
  rw [← completed_halfway]
  exact tick_complete (p := p.halfway r parts) navigation rfl hidden ticked complete

theorem halfway_overflow {e : ClockOverflow} (g : Progress) (parts : List String)
    (hidden : r.isComplete = false) (ticked : r.tickAll times = .error e) :
    calls (g, p.halfway r parts) (times.map .tick) = .error e := by
  induction times generalizing r g parts with
  | nil => cases ticked
  | cons time rest ih =>
    rw [List.map_cons, calls, List.foldlM_cons]
    simp only [Reveal.tickAll] at ticked
    cases first : r.tick time with
    | error f =>
      rw [first] at ticked
      have failed : (p.halfway r parts).tick time = .error f :=
        tick_overflow (p := p.halfway r parts) navigation rfl first
      cases ticked
      simp only [call, failed, bind, Except.bind]
    | ok m =>
      obtain ⟨more, later⟩ := m
      simp only [first] at ticked
      cases incomplete : later.isComplete with
      | true =>
        obtain ⟨answers, going⟩ := Reveal.tickAll_of_complete incomplete rest
        rw [going] at ticked
        cases ticked
      | false =>
        have going : later.tickAll rest = .error e := by
          cases going : later.tickAll rest with
          | error f => rfl
          | ok n =>
            rw [going] at ticked
            cases ticked
        have showing := halfway_showing navigation parts first incomplete
        simp only [call, showing, bind, Except.bind]
        exact ih .typing _ incomplete going

/-- While time goes by more and more of a line is shown, until it is complete. -/
theorem halfway_ticks {answers : List Bool} {last : Reveal} (g : Progress) (parts : List String)
    (hidden : r.isComplete = false) (ticked : r.tickAll times = .ok (answers, last)) :
    ∃ more : List String,
      (∀ part ∈ more, part.toList <+: r.text.toList ∧ part.length < r.text.length) ∧
      (last.isComplete = true ∧ calls (g, p.halfway r parts) (times.map .tick) =
          .ok (.waitInput, p.through r.text (parts ++ more)) ∨
        last.isComplete = false ∧ ∃ g', calls (g, p.halfway r parts) (times.map .tick) =
          .ok (g', p.halfway last (parts ++ more))) := by
  induction times generalizing r g parts answers with
  | nil =>
    cases ticked
    exact ⟨[], by simp, .inr ⟨hidden, g, by rw [List.append_nil]; rfl⟩⟩
  | cons time rest ih =>
    obtain ⟨more, later, others, first, going, -⟩ := Reveal.tickAll_cons ticked
    have text : later.text = r.text := (Reveal.tick_cases hidden first).1
    cases incomplete : later.isComplete with
    | true =>
      obtain ⟨_, still⟩ := Reveal.tickAll_of_complete incomplete rest
      obtain rfl : later = last := by
        rw [still] at going
        cases going
        rfl
      -- a complete line leaves the rest of the time alone
      have done := halfway_complete navigation parts hidden first incomplete
      refine ⟨[], by simp, .inl ⟨incomplete, ?_⟩⟩
      rw [List.append_nil]
      exact calls_cons.2 ⟨_, done, through_ticks navigation _ _ _⟩
    | false =>
      have showing := halfway_showing navigation parts first incomplete
      have new := Reveal.news_proper incomplete more
      obtain ⟨rest, proper, reached⟩ := ih .typing (parts ++ later.news more) incomplete going
      rw [text] at new proper reached
      refine ⟨later.news more ++ rest, ?_, ?_⟩
      · exact List.forall_mem_append.2 ⟨new, proper⟩
      · rw [← List.append_assoc]
        obtain ⟨complete, called⟩ | ⟨hidden, g', called⟩ := reached
        · exact .inl ⟨complete, calls_cons.2 ⟨_, showing, called⟩⟩
        · exact .inr ⟨hidden, g', calls_cons.2 ⟨_, showing, called⟩⟩

end Ticks

/-- What can be told from an answer: the answer itself, the player, its stage, and the commands that
the surface got since an earlier state. -/
def outcome (before : Playback) (r : Progress × Playback) :
    Progress × Player × Stage × List Command :=
  (r.1, r.2.player, r.2.surface.stage, before.issued r.2)

theorem outcome_bare (p : Playback) (g : Progress) (cs : List Call) :
    (calls (g, p) cs).map p.outcome = (calls (g, p.bare) cs).map p.bare.outcome := by
  have behind := behind_calls p.surface.log p.records (g, p.bare) cs
  rw [answerBehind, behind_bare] at behind
  rw [behind]
  cases calls (g, p.bare) cs with
  | error e => rfl
  | ok m =>
    have issued : p.issued (m.2.behind p.surface.log p.records) = p.bare.issued m.2 := by
      simp [Playback.issued, Playback.behind, bare]
    simp only [Except.map, answerBehind, outcome, issued]
    rfl

theorem outcome_congr {p q : Playback} (player : q.player = p.player)
    (stage : q.surface.stage = p.surface.stage) (g : Progress) (cs : List Call) :
    (calls (g, q) cs).map q.outcome = (calls (g, p) cs).map p.outcome := by
  have same : q.bare = p.bare := by rw [bare, bare, player, stage]
  rw [outcome_bare q, outcome_bare p, same]

theorem halfway_nil {p : Playback} {r : Reveal} (shown : p.player.reveal = some r) :
    p.halfway r [] = p := by
  obtain ⟨player, surface, records⟩ := p
  simp only [halfway, List.map_nil, Surface.performAll_nil]
  rw [← shown]

theorem through_stage (p : Playback) (text : String) (parts : List String) :
    (p.through text parts).surface.stage = { p.surface.stage with dialogText := text } := by
  rw [through, Surface.stage_texts, List.getLast?_concat]
  rfl

theorem through_log (p : Playback) (text : String) (parts : List String) :
    (p.through text parts).surface.log.toList = p.surface.log.toList ++
      parts.map (.setDialogText · p.player.dialogStyle) ++
        [.setDialogText text p.player.dialogStyle] := by
  rw [through, Surface.log_performAll, List.map_append, List.append_assoc]
  rfl

section Shown

variable {p : Playback} {r : Reveal} (navigation : p.player.navigation = none)
  (shown : p.player.reveal = some r)
include navigation shown

/-- A pointer down completes a line as time does. -/
theorem advance_through (enabled : p.player.advanceEnabled = true) (parts : List String) :
    p.advance.1 = .waitInput ∧
      (p.through r.text parts).player = p.advance.2.player ∧
      (p.through r.text parts).surface.stage = p.advance.2.surface.stage ∧
      p.advance.2.surface.log.toList =
        p.surface.log.toList ++ [.setDialogText r.text p.player.dialogStyle] := by
  rw [advance_shown navigation enabled shown, through_stage]
  simp [through, Stage.apply, Surface.log_perform]

variable (hidden : r.isComplete = false) {times : List Duration}
include hidden

theorem ticks_through {g : Progress} {t : Progress × Playback}
    (called : calls (g, p) (times.map .tick) = .ok t) (unshown : t.2.player.reveal = none) :
    ∃ parts : List String,
      (∀ part ∈ parts, part.toList <+: r.text.toList ∧ part.length < r.text.length) ∧
      t = (.waitInput, p.through r.text parts) := by
  rw [← halfway_nil shown] at called
  cases ticked : r.tickAll times with
  | error e =>
    rw [halfway_overflow navigation g [] hidden ticked] at called
    cases called
  | ok m =>
    obtain ⟨parts, proper, ⟨-, done⟩ | ⟨-, g', showing⟩⟩ :=
      halfway_ticks navigation g [] hidden ticked
    · rw [done] at called
      exact ⟨parts, proper, (Except.ok.inj called).symm⟩
    · rw [showing] at called
      cases called
      cases unshown

theorem ticks_complete_iff {past : List Duration} (g : Progress)
    (after : Reveal.After r.text r.interval past r)
    (fits : total (past ++ times) < twoTo 64 * nanosPerSecond)
    (countable : Reveal.Countable r.interval (past ++ times)) :
    ∃ t, calls (g, p) (times.map .tick) = .ok t ∧
      (t.2.player.reveal = none ↔
        times ≠ [] ∧ r.text.length * r.interval.nanos ≤ total (past ++ times)) := by
  have nonempty : r.text ≠ "" := by simpa using Reveal.nonempty_of_hidden hidden
  obtain ⟨answers, last, ticked⟩ := after.exists_tickAll fits
  have complete_iff := (after.tickAll ticked).isComplete_iff nonempty countable
  have begun (complete : last.isComplete = true) : times ≠ [] := by
    rintro rfl
    cases ticked
    rw [hidden] at complete
    cases complete
  have finished_iff : last.isComplete = true ↔
      times ≠ [] ∧ r.text.length * r.interval.nanos ≤ total (past ++ times) :=
    ⟨fun complete => ⟨begun complete, (complete_iff.1 complete).2⟩,
      fun h => complete_iff.2 ⟨by simp [h.1], h.2⟩⟩
  have reached := halfway_ticks navigation g [] hidden ticked
  rw [halfway_nil shown] at reached
  obtain ⟨parts, -, ⟨complete, done⟩ | ⟨incomplete, g', showing⟩⟩ := reached
  · refine ⟨_, done, ?_⟩
    rw [← finished_iff]
    simp [through, complete]
  · refine ⟨_, showing, ?_⟩
    rw [← finished_iff]
    simp [halfway, incomplete]

end Shown

/-- A line that is being shown can be skipped, or be waited for in any steps. A pointer down and
steps that complete the line lead to the same player and the same stage, and the surface gets the
same commands but for parts of the text. So whatever is asked afterwards is answered alike, and does
the same. The steps complete the line exactly if they take the time of its characters, as long as
the clock and the count of characters hold it. -/
theorem skipped_as_waited {p : Playback} {o : Opening} {r s : Progress × Playback} {cs : List Call}
    {line : Reveal} (ho : p.opened o = .ok r) (hc : calls r cs = .ok s)
    (navigation : s.2.player.navigation = none) (shown : s.2.player.reveal = some line) :
    let whole : Command := .setDialogText line.text s.2.player.dialogStyle
    s.2.advance.1 = .waitInput ∧ s.2.advance.2.player.reveal = none ∧
      s.2.advance.2.surface.log.toList = s.2.surface.log.toList ++ [whole] ∧
      (∀ (times : List Duration) (t : Progress × Playback),
        calls s (times.map .tick) = .ok t → t.2.player.reveal = none →
          t.1 = .waitInput ∧ t.2.player = s.2.advance.2.player ∧
            t.2.surface.stage = s.2.advance.2.surface.stage ∧
            (∃ parts : List String,
              (∀ part ∈ parts, part.toList <+: line.text.toList ∧ part.length < line.text.length) ∧
              t.2.surface.log.toList = s.2.surface.log.toList ++
                parts.map (.setDialogText · s.2.player.dialogStyle) ++ [whole]) ∧
            ∀ more, (calls t more).map t.2.outcome =
              (calls s.2.advance more).map s.2.advance.2.outcome) ∧
      ∀ times : List Duration, line.elapsed.nanos + total times < twoTo 64 * nanosPerSecond →
        (line.interval.nanos ≠ 0 →
          line.elapsed.nanos + total times < Reveal.countBound * line.interval.nanos) →
        ∃ t, calls s (times.map .tick) = .ok t ∧
          (t.2.player.reveal = none ↔ times ≠ [] ∧
            line.text.length * line.interval.nanos ≤ line.elapsed.nanos + total times) := by
  have enabled := (controlled_calls ho hc).enabled_of_reveal (by simp [shown])
  obtain ⟨q, timeline, first, rfl⟩ := opened_startAt ho
  obtain ⟨d, -, -, -, spoken⟩ := exists_spoken hc
  obtain ⟨hidden, l, past, after, -⟩ := spoken.shows shown
  have skipped := advance_through navigation shown enabled
  refine ⟨(skipped []).1, ?_, (skipped []).2.2.2, ?_, ?_⟩
  · rw [← (skipped []).2.1]
    rfl
  · intro times t called unshown
    obtain ⟨parts, proper, rfl⟩ := ticks_through navigation shown hidden called unshown
    obtain ⟨answer, player, stage, -⟩ := skipped parts
    refine ⟨rfl, player, stage, ⟨parts, proper, through_log s.2 line.text parts⟩, ?_⟩
    intro more
    exact (outcome_congr player stage .waitInput more).trans (by rw [← answer])
  · intro times fits countable
    rw [← after.tells] at after
    rw [after.clock hidden, ← Duration.total_append] at fits countable ⊢
    exact ticks_complete_iff navigation shown hidden s.1 after fits countable

/-- A gate that is left without a destination, and a line behind it. -/
def farewell : Timeline := [.choice [⟨"Stay", ""⟩, ⟨"Go", "next"⟩], .dialog { text := "さようなら" }]

/-- One of five characters is shown when the pointer goes down, or time goes on in four steps of
which the third one completes the line. Either way the gate is still there to be answered. -/
theorem farewell_skipped_as_waited :
    let times : List Duration := [.ofMillis 100, .ofMillis 30, .ofMillis 5000, .ofMillis 5000]
    ∃ s t line, calls (fresh.start farewell) [.press 0, .advance, .tick (.ofMillis 60)] = .ok s ∧
      s.2.player.navigation = none ∧ s.2.player.reveal = some line ∧ line.visible = "さ" ∧
      calls s (times.map .tick) = .ok t ∧ t.2.player = s.2.advance.2.player ∧
      t.2.surface.stage = s.2.advance.2.surface.stage ∧
      Command.texts t.2.surface.log.toList = ["", "さ", "さよう", "さようなら"] ∧
      Command.texts s.2.advance.2.surface.log.toList = ["", "さ", "さようなら"] ∧
      (calls t [.advance, .press 1]).map t.2.outcome =
        (calls s.2.advance [.advance, .press 1]).map s.2.advance.2.outcome := by
  intro times
  have made : ∃ s t line,
      calls (fresh.start farewell) [.press 0, .advance, .tick (.ofMillis 60)] = .ok s ∧
      s.2.player.navigation = none ∧ s.2.player.reveal = some line ∧ line.visible = "さ" ∧
      calls s (times.map .tick) = .ok t ∧ t.2.player.reveal = none ∧
      Command.texts t.2.surface.log.toList = ["", "さ", "さよう", "さようなら"] ∧
      Command.texts s.2.advance.2.surface.log.toList = ["", "さ", "さようなら"] :=
    ⟨_, _, _, rfl, rfl, rfl, by decide, rfl, rfl, by decide, by decide⟩
  obtain ⟨s, t, line, hs, navigation, shown, visible, waited, unshown, parts, whole⟩ := made
  have begun : fresh.opened (.start farewell) = .ok (fresh.start farewell) := rfl
  obtain ⟨-, -, -, alike, -⟩ := skipped_as_waited begun hs navigation shown
  obtain ⟨-, player, stage, -, later⟩ := alike times t waited unshown
  exact ⟨s, t, line, hs, navigation, shown, visible, waited, player, stage, parts,
    whole, later _⟩

end Playback

end VisualNovel
