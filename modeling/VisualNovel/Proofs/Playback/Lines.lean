import VisualNovel.Proofs.Playback.Diary
import VisualNovel.Proofs.Playback.Due

namespace VisualNovel

/-- A text is shown in longer and longer parts, from the empty one on. -/
structure Unfolds (text : String) (parts : List String) : Prop where
  empty : parts.head? = some ""
  within : ∀ part ∈ parts, part.toList <+: text.toList
  longer : parts.Pairwise fun earlier later =>
    earlier.toList <+: later.toList ∧ earlier.length < later.length

namespace Unfolds

theorem single (text : String) : Unfolds text [""] where
  empty := rfl
  within := by simp
  longer := List.pairwise_singleton _ _

theorem grow {text last next : String} {parts : List String} (h : Unfolds text parts)
    (latest : parts.getLast? = some last) (within : next.toList <+: text.toList)
    (longer : last.length < next.length) : Unfolds text (parts ++ [next]) := by
  obtain ⟨earlier, rfl⟩ := List.getLast?_eq_some_iff.1 latest
  have below : ∀ part ∈ earlier ++ [last], part.length ≤ last.length := by
    intro part mem
    obtain before | same := List.mem_append.1 mem
    · exact Nat.le_of_lt ((List.pairwise_append.1 h.longer).2.2 part before last (by simp)).2
    · exact Nat.le_of_eq (congrArg String.length (List.mem_singleton.1 same))
  refine ⟨?_, ?_, ?_⟩
  · rw [List.head?_append, h.empty, Option.some_or]
  · intro part mem
    obtain before | same := List.mem_append.1 mem
    · exact h.within part before
    · exact List.mem_singleton.1 same ▸ within
  · refine List.pairwise_append.2 ⟨h.longer, List.pairwise_singleton _ _, ?_⟩
    -- parts of one text are told apart by their lengths
    intro part mem part' same
    obtain rfl := List.mem_singleton.1 same
    have shorter := Nat.lt_of_le_of_lt (below part mem) longer
    refine ⟨List.prefix_of_prefix_length_le (h.within part mem) within ?_, shorter⟩
    rw [String.length_toList, String.length_toList]
    exact Nat.le_of_lt shorter

end Unfolds

namespace Command

def text? : Command → Option String
  | .setDialogText text _ => some text
  | _ => none

def texts (commands : List Command) : List String := commands.filterMap text?

@[simp] theorem texts_append (a b : List Command) : texts (a ++ b) = texts a ++ texts b :=
  List.filterMap_append

theorem texts_control {commands : List Command} (control : ∀ c ∈ commands, c.isControl = true) :
    texts commands = [] := by
  refine List.filterMap_eq_nil_iff.2 fun c mem => ?_
  have h := control c mem
  cases c <;> first | rfl | cases h

end Command

theorem Surface.dialogText_control (s : Surface) {commands : List Command}
    (control : ∀ c ∈ commands, c.isControl = true) :
    (s.performAll commands).stage.dialogText = s.stage.dialogText := by
  induction commands generalizing s with
  | nil => rfl
  | cons c rest ih =>
    have h := control c List.mem_cons_self
    rw [performAll_cons, ih _ fun d mem => control d (List.mem_cons_of_mem c mem)]
    cases c <;> first | rfl | cases h

namespace Playback

open Command (texts)

/-- If the event of the turn is a line, its text was shown up to the end. -/
def Turn.Whole (turn : Turn) : Prop :=
  ∀ line, turn.event = .dialog line →
    Unfolds line.text (texts turn.commands) ∧ (texts turn.commands).getLast? = some line.text

/-- The latest turn is that of a line, whose text was shown up to a part. -/
structure Latest (d : Diary) (line : DialogLine) (part : String) (turn : Turn) (past : List Turn) :
    Prop where
  turns : d.turns = turn :: past
  event : turn.event = .dialog line
  unfolds : Unfolds line.text (texts turn.commands)
  last : (texts turn.commands).getLast? = some part
  whole : ∀ turn ∈ past, turn.Whole

/-- The surface shows a part of the line that the latest turn is about. -/
def Shows (p : Playback) (d : Diary) (line : DialogLine) (part : String) : Prop :=
  p.surface.stage.dialogText = part ∧ ∃ turn past, Latest d line part turn past

/-- How the diary goes together with the line that the player shows. -/
inductive Spoken (p : Playback) (d : Diary) : Prop where
  | silent (unshown : p.player.reveal = none) (whole : ∀ turn ∈ d.turns, turn.Whole)
  | showing {line : DialogLine} {r : Reveal} {times : List Duration}
      (shown : p.player.reveal = some r) (hidden : r.isComplete = false)
      (after : Reveal.After line.text r.interval times r) (shows : p.Shows d line r.visible)

theorem Diary.turns_write {d : Diary} {turn : Turn} {past : List Turn}
    (turns : d.turns = turn :: past) (commands : List Command) :
    (d.write commands).turns = { turn with commands := turn.commands ++ commands } :: past := by
  simp only [write, turns]

theorem Turn.whole_of_immediate {turn : Turn} (immediate : turn.event.pacing = .immediate) :
    turn.Whole := by
  intro line event
  rw [event] at immediate
  cases immediate

theorem whole_write {d : Diary} {commands : List Command} (whole : ∀ turn ∈ d.turns, turn.Whole)
    (silent : texts commands = []) : ∀ turn ∈ (d.write commands).turns, turn.Whole := by
  cases turns : d.turns with
  | nil =>
    rw [Diary.write, turns]
    simp
  | cons turn past =>
    rw [turns, List.forall_mem_cons] at whole
    rw [Diary.turns_write turns, List.forall_mem_cons]
    refine ⟨?_, whole.2⟩
    intro line event
    rw [Command.texts_append, silent, List.append_nil]
    exact whole.1 line event

section Shows

variable {p q : Playback} {d : Diary} {line : DialogLine} {part : String}

theorem Shows.control (h : p.Shows d line part) {commands : List Command}
    (surface : q.surface = p.surface.performAll commands)
    (control : ∀ c ∈ commands, c.isControl = true) : q.Shows (d.write (p.issued q)) line part := by
  obtain ⟨visible, turn, past, latest⟩ := h
  refine ⟨?_, _, past, Diary.turns_write latest.turns _, latest.event, ?_, ?_, latest.whole⟩
  · rw [surface, Surface.dialogText_control _ control, visible]
  all_goals rw [issued_of_performAll surface, Command.texts_append, Command.texts_control control,
    List.append_nil]
  · exact latest.unfolds
  · exact latest.last

theorem Shows.grow (h : p.Shows d line part) {next : String} {style : TextStyle}
    (surface : q.surface = p.surface.performAll [.setDialogText next style])
    (within : next.toList <+: line.text.toList) (longer : part.length < next.length) :
    q.Shows (d.write (p.issued q)) line next := by
  obtain ⟨visible, turn, past, latest⟩ := h
  refine ⟨?_, _, past, Diary.turns_write latest.turns _, latest.event, ?_, ?_, latest.whole⟩
  · rw [surface]
    rfl
  all_goals rw [issued_of_performAll surface, Command.texts_append]
  · exact latest.unfolds.grow latest.last within longer
  · exact List.getLast?_concat

theorem Shows.whole (h : p.Shows d line line.text) : ∀ turn ∈ d.turns, turn.Whole := by
  obtain ⟨-, turn, past, latest⟩ := h
  rw [latest.turns, List.forall_mem_cons]
  refine ⟨?_, latest.whole⟩
  intro other event
  obtain rfl : line = other := Event.dialog.inj (latest.event.symm.trans event)
  exact ⟨latest.unfolds, latest.last⟩

end Shows

section Step

variable {p q : Playback} {d : Diary}

/-- Buttons and pointer downs leave the line as it is. -/
theorem Spoken.control (h : Spoken p d) (reveal : q.player.reveal = p.player.reveal)
    {commands : List Command} (surface : q.surface = p.surface.performAll commands)
    (control : ∀ c ∈ commands, c.isControl = true) : Spoken q (d.write (p.issued q)) := by
  cases h with
  | silent unshown whole =>
    refine .silent (reveal.trans unshown) (whole_write whole ?_)
    rw [issued_of_performAll surface, Command.texts_control control]
  | showing shown hidden after shows =>
    exact .showing (reveal.trans shown) hidden after (shows.control surface control)

theorem Spoken.kept (h : Spoken p d) (reveal : q.player.reveal = p.player.reveal)
    (surface : q.surface = p.surface) : Spoken q (d.write (p.issued q)) :=
  h.control reveal (show q.surface = p.surface.performAll [] from surface) (by simp)

theorem Spoken.congr (h : Spoken p d) (reveal : q.player.reveal = p.player.reveal)
    (surface : q.surface = p.surface) : Spoken q d := by
  have kept := h.kept reveal surface
  rwa [issued_of_performAll (show q.surface = p.surface.performAll [] from surface),
    Diary.write_nil] at kept

theorem showLine_surface (p : Playback) (line : DialogLine) : (p.showLine line).2.surface =
    p.surface.performAll
      [actorCommand line, .setDialogText "" ⟨line.textFillColor, line.textFillAlpha⟩] := by
  unfold showLine
  dsimp only
  split <;> rfl

theorem showLine_reveal (unshown : p.player.reveal = none) (line : DialogLine) :
    let r : Reveal := { text := line.text, interval := p.player.config.typingInterval }
    (p.showLine line).2.player.reveal = if r.isComplete then none else some r := by
  intro r
  unfold showLine
  dsimp only
  split
  · next complete =>
    rw [if_pos (by exact complete)]
    exact unshown
  · next hidden =>
    rw [if_neg (by exact hidden)]
    rfl

theorem showLine_shows (p : Playback) {turn : Turn} {past : List Turn} {line : DialogLine}
    (turns : d.turns = turn :: past) (event : turn.event = .dialog line)
    (blank : turn.commands = []) (whole : ∀ turn ∈ past, turn.Whole) :
    (p.showLine line).2.Shows (d.write (p.issued (p.showLine line).2)) line "" := by
  have surface := showLine_surface p line
  have parts : texts (turn.commands ++ p.issued (p.showLine line).2) = [""] := by
    rw [issued_of_performAll surface, blank]
    unfold actorCommand
    split
    · split <;> rfl
    · rfl
  refine ⟨?_, _, past, Diary.turns_write turns _, event, ?_, ?_, whole⟩
  · rw [surface]
    rfl
  all_goals rw [parts]
  · exact .single _
  · rfl

theorem showLine_spoken (unshown : p.player.reveal = none) {line : DialogLine}
    (shows : (p.showLine line).2.Shows d line "") : Spoken (p.showLine line).2 d := by
  have reveal := showLine_reveal unshown line
  dsimp only at reveal
  split at reveal
  · next complete =>
    have blank : line.text = "" := by
      simpa [Reveal.visible] using (Reveal.visible_of_complete complete).symm
    have complete : (p.showLine line).2.Shows d line line.text := by
      rw [blank]
      exact shows
    exact .silent reveal complete.whole
  · next hidden =>
    exact .showing reveal (Bool.eq_false_iff.2 hidden) (Reveal.after_nil _ _) shows

theorem block_reveal (p : Playback) {e : Event} (other : ∀ line, e ≠ .dialog line) :
    (p.block e).2.player.reveal = p.player.reveal := by
  have blocked := block_blocked p e
  generalize p.block e = r at blocked
  obtain ⟨g, m⟩ := r
  dsimp only at blocked
  cases blocked with
  | typing text hidden player surface => exact (other _ rfl).elim
  | waiting player surface | stalled player surface | restart player surface
  | scene player surface | gate opens player surface => rw [player]

theorem block_spoken (unshown : p.player.reveal = none) {turn : Turn} {past : List Turn}
    (turns : d.turns = turn :: past) (blank : turn.commands = [])
    (whole : ∀ turn ∈ past, turn.Whole) :
    Spoken (p.block turn.event).2 (d.write (p.issued (p.block turn.event).2)) := by
  by_cases dialog : ∃ line, turn.event = .dialog line
  · obtain ⟨line, event⟩ := dialog
    rw [event]
    exact showLine_spoken unshown (showLine_shows p turns event blank whole)
  · refine .silent ?_ ?_
    · rw [block_reveal p fun line event => dialog ⟨line, event⟩]
      exact unshown
    · rw [Diary.turns_write turns, List.forall_mem_cons]
      exact ⟨fun line event => (dialog ⟨line, event⟩).elim, whole⟩

theorem runThrough_spoken (unshown : p.player.reveal = none) (whole : ∀ turn ∈ d.turns, turn.Whole)
    (left : List Event) : Spoken (p.runThrough left).2 (p.runThroughDiary d left) := by
  induction left generalizing p d with
  | nil =>
    refine .silent ?_ whole
    simpa only [runThrough, note_player] using unshown
  | cons e rest ih =>
    have turns : (d.turnTo p.player.index e).turns =
        { index := p.player.index, event := e } :: d.turns := rfl
    cases he : e.pacing with
    | immediate =>
      simp only [runThrough, runThroughDiary, he]
      refine ih ?_ ?_
      · simpa using unshown
      · -- no line is immediate, so that the new turn has nothing to show
        rw [Diary.turns_write turns, List.forall_mem_cons]
        exact ⟨Turn.whole_of_immediate he, whole⟩
    | blocking =>
      simp only [runThrough, runThroughDiary, he]
      exact block_spoken (by simpa using unshown) turns rfl whole

theorem run_spoken (unshown : p.player.reveal = none) (whole : ∀ turn ∈ d.turns, turn.Whole) :
    Spoken p.run.2 (p.runDiary d) := by
  unfold run runDiary
  cases p.player.timeline with
  | none => exact .silent unshown whole
  | some timeline => exact runThrough_spoken unshown whole _

theorem Spoken.whole (h : Spoken p d) (unshown : p.player.reveal = none) :
    ∀ turn ∈ d.turns, turn.Whole := by
  cases h with
  | silent _ whole => exact whole
  | showing shown =>
    rw [unshown] at shown
    cases shown

/-- All that a surface gets while time goes by is the part of the line that is shown. -/
theorem tick_surface {g : Progress} {time : Duration} {r later : Reveal} {more : Bool}
    (navigation : p.player.navigation = none) (shown : p.player.reveal = some r)
    (ticked : r.tick time = .ok (more, later)) (h : p.tick time = .ok (g, q)) :
    q.surface = p.surface.performAll
      ((later.news more).map (.setDialogText · p.player.dialogStyle)) := by
  unfold tick at h
  rw [if_neg (by simp [navigation])] at h
  simp only [shown, ticked, bind, Except.bind, pure, Except.pure] at h
  cases more <;> split at h <;> cases h <;> rfl

theorem Shows.ticked {line : DialogLine} {style : TextStyle} {times : List Duration}
    {time : Duration} {r later : Reveal} {more : Bool} (h : p.Shows d line r.visible)
    (after : Reveal.After line.text r.interval times r)
    (ticked : r.tick time = .ok (more, later))
    (surface : q.surface = p.surface.performAll
      ((later.news more).map (.setDialogText · style))) :
    q.Shows (d.write (p.issued q)) line later.visible := by
  obtain ⟨next, le, more_iff⟩ := after.tick ticked
  cases more with
  | true =>
    have within : later.visible.toList <+: line.text.toList := by
      rw [Reveal.visible, next.tells, String.toList_ofList]
      exact List.take_prefix _ _
    exact h.grow surface within ((after.grows ticked).more_iff.1 rfl)
  | false =>
    have still : later.visible = r.visible := by
      have shown : later.shown = r.shown :=
        Nat.le_antisymm (Nat.le_of_not_lt fun lt => Bool.false_ne_true (more_iff.2 lt)) le
      rw [Reveal.visible, Reveal.visible, next.tells, after.tells, shown]
    rw [still]
    exact h.control surface (by simp [Reveal.news])

theorem Spoken.shows (h : Spoken p d) {r : Reveal} (shown : p.player.reveal = some r) :
    r.isComplete = false ∧ ∃ line times, Reveal.After line.text r.interval times r ∧
      p.Shows d line r.visible := by
  cases h with
  | silent unshown whole =>
    rw [unshown] at shown
    cases shown
  | showing same hidden after shows =>
    rw [same] at shown
    cases shown
    exact ⟨hidden, _, _, after, shows⟩

theorem Spoken.called (h : Spoken p d) {c : Call} {m : Progress × Playback}
    (called : p.call c = .ok m) : Spoken m.2 (p.callDiary d c m.2) := by
  obtain ⟨rfl, leads⟩ | stays := p.leads_or_stays c
  · obtain ⟨navigation, enabled, unshown⟩ := leadsOn_iff.1 leads
    cases called
    rw [callDiary_of_leads d leads, advance_run navigation enabled unshown]
    exact (run_spoken unshown (h.whole unshown)).congr (by rw [settle_player])
      (settle_surface _ _)
  · rw [callDiary_of_stays d stays]
    obtain ⟨g, q⟩ := m
    cases call_step called with
    | finished navigation same | ungated navigation gate same | unshown navigation reveal same =>
      exact h.kept (by rw [same]) (by rw [same])
    | ignored navigation enabled player surface
    | refused navigation gated pressed player surface
    | resolved navigation gated pressed player surface => exact h.kept (by rw [player]) surface
    | toggled navigation gated pressed player surface
    | fellBack navigation gated pressed player surface =>
      exact h.control (by rw [player]) (surface.trans (Surface.performAll_singleton _ _).symm)
        (by simp [Command.isControl])
    | ran navigation enabled reveal run player surface =>
      have leads := leadsOn_iff.2 ⟨navigation, enabled, reveal⟩
      rw [stays rfl] at leads
      cases leads
    | @completed r navigation enabled shown player surface =>
      obtain ⟨hidden, line, times, after, shows⟩ := h.shows shown
      have rest := (Reveal.visible_proper hidden).2
      rw [after.tells] at surface rest
      have whole := shows.grow (surface.trans (Surface.performAll_singleton _ _).symm)
        List.prefix_rfl rest
      exact .silent (by rw [player]) whole.whole
    | @showing time r later more navigation shown ticked incomplete player surface =>
      obtain ⟨-, line, times, after, shows⟩ := h.shows shown
      have next := (after.tick ticked).1
      refine .showing (by rw [player]) incomplete (next.paced ▸ next) ?_
      exact shows.ticked after ticked (tick_surface navigation shown ticked called)
    | @shown time r later more navigation shown ticked complete player surface =>
      obtain ⟨-, line, times, after, shows⟩ := h.shows shown
      have whole := shows.ticked after ticked (tick_surface navigation shown ticked called)
      rw [Reveal.visible_of_complete complete, (after.tick ticked).1.tells] at whole
      exact .silent (by rw [player]) whole.whole

end Step

theorem Latest.getLast?_events {d : Diary} {line : DialogLine} {part : String} {turn : Turn}
    {past : List Turn} (h : Latest d line part turn past) :
    d.events.getLast? = some (turn.index, .dialog line) := by
  simp [Diary.events, h.turns, h.event]

theorem Spoken.unfolds {p : Playback} {d : Diary} (h : Spoken p d) :
    (∀ turn ∈ d.turns, ∀ line, turn.event = .dialog line →
        Unfolds line.text (texts turn.commands)) ∧ ∀ turn ∈ d.turns.tail, turn.Whole := by
  cases h with
  | silent unshown whole =>
    refine ⟨?_, fun turn mem => whole turn (List.mem_of_mem_tail mem)⟩
    intro turn mem line event
    exact (whole turn mem line event).1
  | showing shown hidden after shows =>
    obtain ⟨-, turn, past, latest⟩ := shows
    rw [latest.turns]
    refine ⟨List.forall_mem_cons.2 ⟨?_, ?_⟩, latest.whole⟩
    · intro line event
      obtain rfl := Event.dialog.inj (latest.event.symm.trans event)
      exact latest.unfolds
    · intro turn mem line event
      exact (latest.whole turn mem line event).1

/-- After any calls the diary goes together with the line that is shown. -/
theorem exists_spoken {p : Playback} {timeline : Timeline} {first : Nat} {cs : List Call}
    {s : Progress × Playback} (h : calls (p.startAt timeline first) cs = .ok s) :
    ∃ d, callsDiary (p.startAt timeline first) (p.startAtDiary timeline first) cs = .ok (s, d) ∧
      Accounted timeline first s.2 d.events ∧
      s.2.surface.log.toList = p.surface.log.toList ++ d.commands ∧ Spoken s.2 d := by
  obtain ⟨d, hd, accounted, logged⟩ := exists_diary h
  have ready := p.readied_ready timeline first
  have begun : Spoken (p.startAt timeline first).2 (p.startAtDiary timeline first) := by
    have ran := run_spoken (d := { before := p.issued (p.readied timeline first) }) ready.reveal
      (by simp)
    exact ran.congr rfl rfl
  have spoken := callsDiary_invariant Spoken (fun spoken => spoken.called) hd begun
  exact ⟨d, hd, accounted, logged, spoken⟩

/-- No line is passed over or cut short, whatever is asked of a player in the meantime. From the
event of a line on the surface gets longer and longer parts of its text, the empty one first, and
before the next event, or when no line is shown any more, the whole text. The line that is shown is
that of the event right before the cursor, and the surface shows what is visible of it. -/
theorem lines_told_in_full {p : Playback} {timeline : Timeline} {first : Nat} {cs : List Call}
    {s : Progress × Playback} (h : calls (p.startAt timeline first) cs = .ok s) :
    ∃ d, callsDiary (p.startAt timeline first) (p.startAtDiary timeline first) cs = .ok (s, d) ∧
      Accounted timeline first s.2 d.events ∧
      s.2.surface.log.toList = p.surface.log.toList ++ d.commands ∧
      (∀ turn ∈ d.turns, ∀ line, turn.event = .dialog line →
        Unfolds line.text (texts turn.commands)) ∧
      (∀ turn ∈ d.turns.tail, turn.Whole) ∧
      (s.2.player.reveal = none → ∀ turn ∈ d.turns, turn.Whole) ∧
      ∀ r, s.2.player.reveal = some r →
        ∃ line, first < s.2.player.index ∧
          timeline[s.2.player.index - 1]? = some (.dialog line) ∧ r.text = line.text ∧
          s.2.surface.stage.dialogText = r.visible := by
  obtain ⟨d, hd, accounted, logged, spoken⟩ := exists_spoken h
  refine ⟨d, hd, accounted, logged, spoken.unfolds.1, spoken.unfolds.2, spoken.whole, ?_⟩
  intro r shown
  obtain ⟨-, line, times, after, visible, turn, past, latest⟩ := spoken.shows shown
  obtain ⟨lt, number, found⟩ := accounted.getLast?_eq_some_iff.1 latest.getLast?_events
  exact ⟨line, lt, number ▸ found, after.tells, visible⟩

/-- A gate that is left without a destination, a line of which half is shown before the pointer goes
down, and a line behind it. -/
def lesson : Timeline :=
  [.choice [⟨"Stay", ""⟩, ⟨"Go", "next"⟩], .dialog { text := "正解です" }, .dialog { text := "Hi" }]

def lessonCalls : List Call :=
  [.advance, .press 0, .advance, .tick (.ofMillis 100), .press 7, .advance, .advance,
    .tick (.ofMillis 50)]

theorem lesson_told_in_full :
    ∃ (s : Progress × Playback) (d : Diary), calls (fresh.startAt lesson 0) lessonCalls = .ok s ∧
      callsDiary (fresh.startAt lesson 0) (fresh.startAtDiary lesson 0) lessonCalls = .ok (s, d) ∧
      s.2.surface.log.toList = d.commands ∧
      (∃ turn ∈ d.turns.tail, turn.event = .dialog { text := "正解です" } ∧ turn.Whole ∧
        texts turn.commands = ["", "正解", "正解です"]) ∧
      ∃ r, s.2.player.reveal = some r ∧ r.visible = "H" ∧ s.2.surface.stage.dialogText = "H" := by
  have made : ∃ (s : Progress × Playback) (d : Diary) (last turn : Turn) (past : List Turn),
      calls (fresh.startAt lesson 0) lessonCalls = .ok s ∧
      callsDiary (fresh.startAt lesson 0) (fresh.startAtDiary lesson 0) lessonCalls = .ok (s, d) ∧
      d.turns = last :: turn :: past ∧ turn.event = .dialog { text := "正解です" } ∧
      texts turn.commands = ["", "正解", "正解です"] ∧
      ∃ r, s.2.player.reveal = some r ∧ r.visible = "H" :=
    ⟨_, _, _, _, _, rfl, rfl, rfl, rfl, by decide, _, rfl, by decide⟩
  obtain ⟨s, d, last, turn, past, hs, hd, turns, event, parts, r, shown, visible⟩ := made
  obtain ⟨kept, hk, -, logged, -, whole, -, showing⟩ := lines_told_in_full hs
  obtain rfl : kept = d := by
    rw [hd] at hk
    cases hk
    rfl
  obtain ⟨line, -, -, -, dialogText⟩ := showing r shown
  have mem : turn ∈ kept.turns.tail := by simp [turns]
  exact ⟨s, kept, hs, hd, logged, ⟨turn, mem, event, whole turn mem, parts⟩, r, shown, visible,
    dialogText.trans visible⟩

end Playback

end VisualNovel
