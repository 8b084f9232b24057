import VisualNovel.Proofs.Session.Prompts

namespace VisualNovel

theorem Text.natural?_toString (n : Nat) : natural? (toString n).toList = some n := by
  have digits : (toString n).toList = Nat.toDigits 10 n := Nat.toList_repr
  have all : ∀ c ∈ Nat.toDigits 10 n, c.isDigit = true := fun c mem =>
    Nat.isDigit_of_mem_toDigits (by decide) (by decide) mem
  have value := @Nat.ofDigitChars_ten_toDigits n
  rw [Nat.ofDigitChars_eq_foldl] at value
  unfold natural?
  rw [digits]
  split
  · next rest plus => cases all '+' (plus ▸ List.mem_cons_self)
  · dsimp only
    have accepted :
        ((Nat.toDigits 10 n).isEmpty || !(Nat.toDigits 10 n).all Char.isDigit) = false := by
      simpa [Nat.toDigits_ne_nil] using all
    rw [accepted, if_neg Bool.false_ne_true]
    simpa only [digitValue, Nat.mul_comm, Option.some.injEq] using value

namespace Session

/-- The numbers up to nine press buttons, and others are not understood. -/
theorem Reply.ofText_toString (n : Nat) :
    ofText (toString n) =
      if 1 ≤ n ∧ n ≤ 9 then .press (n - 1) else .unknown (toString n) := by
  have read := Text.natural?_toString n
  unfold ofText
  split
  · next blank => rw [blank] at read; cases read
  · next q => rw [q] at read; cases read
  · next c => rw [c] at read; cases read
  · rw [read]
    simp

/-- What stands before the label of an option that can be selected together with others. -/
def mark : ButtonRole → ButtonState → String
  | .toggle, .selected => "[x] "
  | .toggle, .idle => "[ ] "
  | _, _ => ""

/-- The button at a place of the menu, on a line with its number and its label. Up to nine, the
number presses the button, and no other one; a larger number is not understood, and the menu is shown
again. -/
structure Numbered (s : Session) (gate : Gate) (place : Nat) (b : Button × ButtonState) :
    Prop where
  number : b.1.id = place
  line : s.menu[place + 1]? =
    some (toString (place + 1) ++ ". " ++ mark b.1.role b.2 ++ b.1.label)
  chosen : place < 9 → ∀ line, Text.trim line = toString (place + 1) →
    s.feed (.text line) = follow (maxIdleRestarts + 1) (s.pressButton b.1.id)
  unknown : 9 ≤ place → ∀ line, Text.trim line = toString (place + 1) →
    AsksAgain s gate
      [s!"Invalid input '{toString (place + 1)}'. Press Enter, 1-9, 'c' or 'q'."]
      (s.feed (.text line))

variable {s : Session} {gate : Gate}

theorem buttonLine_eq {b : Button} (state : ButtonState) (role : b.role ≠ .confirm) :
    buttonLine b state = toString (b.id + 1) ++ ". " ++ mark b.role state ++ b.label := by
  unfold buttonLine
  cases kind : b.role with
  | choice =>
    have unmarked : mark .choice state = "" := rfl
    rw [unmarked, String.append_empty]
    rfl
  | toggle =>
    cases state with
    | idle | selected => simp [mark, String.append_assoc, toString]
  | confirm => exact (role kind).elim

theorem Choosing.numbered (choosing : s.Choosing gate) {place : Nat} {b : Button × ButtonState}
    (there : s.playback.surface.stage.buttons[place]? = some b) (role : b.1.role ≠ .confirm) :
    s.Numbered gate place b := by
  have screened : gate.Screened s.config.layout s.config.canvas
      s.playback.surface.stage.buttons := by
    rw [choosing.screen]
    exact Gate.screened_shown choosing.sound
  have number : b.1.id = place := by
    have id : (List.range gate.buttonCount)[place]? = some b.1.id := by
      rw [← screened.numbers, List.getElem?_map, there]
      rfl
    obtain ⟨lt, same⟩ := List.getElem?_eq_some_iff.1 id
    exact same.symm.trans (List.getElem_range lt)
  have reply {line : String} (typed : Text.trim line = toString (place + 1)) :
      Reply.ofLine line = Reply.ofText (toString (place + 1)) := congrArg Reply.ofText typed
  refine ⟨number, ?_, fun small line typed => ?_, fun large line typed => ?_⟩
  · have short : place < s.playback.surface.stage.buttons.length :=
      (List.getElem?_eq_some_iff.1 there).1
    rw [menu, List.getElem?_append_left (by simpa using short), List.getElem?_cons_succ,
      List.getElem?_map, there, ← number, ← buttonLine_eq b.2 role]
    rfl
  · rw [feed, choosing.prompting]
    dsimp only
    rw [reply typed, Reply.ofText_toString, if_pos (by omega), number]
    rfl
  · obtain ⟨t, again, asked⟩ := choosing.obey_unknown (toString (place + 1))
    rw [feed, choosing.prompting]
    dsimp only
    rw [reply typed, Reply.ofText_toString, if_neg (by omega), asked, follow_none]
    exact again

/-- Whenever a choice is asked for, the menu of its gate was printed last. Each of the first nine
options of it is chosen by the number on its line. -/
theorem menu_numbered {r : Registry} {config : Config} {options : Options}
    {streams : Nat → Random} {inputs : List Input}
    (prompting : ((start r config options streams).takes inputs).phase = .prompting)
    (waiting : ((start r config options streams).takes inputs).playback.player.progress =
      .waitChoice) :
    let s := (start r config options streams).takes inputs
    ∃ gate, s.playback.player.gate = some gate ∧
      gate.Screened config.layout config.canvas s.playback.surface.stage.buttons ∧
      (∃ before, s.output = before ++ (linesText s.menu ++ "> ")) ∧
      ∀ place b, s.playback.surface.stage.buttons[place]? = some b → b.1.role ≠ .confirm →
        s.Numbered gate place b := by
  obtain ⟨given, gate, choosing⟩ := choosing_takes prompting waiting
  refine ⟨gate, choosing.gated, ?_, choosing.printed, fun place b => choosing.numbered⟩
  rw [choosing.screen, given]
  exact Gate.screened_shown choosing.sound

def tenWays : Registry :=
  (Registry.insert {} "far" []).insert "start"
    [.choice ((List.range 10).map fun n => ⟨s!"Way {n + 1}", "far"⟩)]

/-- The first nine of the ways are chosen by their numbers. -/
theorem ten_ways_numbered :
    let s := (start tenWays .default {}).takes []
    s.phase = .prompting ∧ s.playback.player.progress = .waitChoice ∧
      s.playback.surface.stage.buttons.length = 10 ∧
      ∃ gate, s.playback.player.gate = some gate ∧
        gate.Screened Config.default.layout Config.default.canvas
          s.playback.surface.stage.buttons ∧
        (∃ before, s.output = before ++ (linesText s.menu ++ "> ")) ∧
        ∀ place b, s.playback.surface.stage.buttons[place]? = some b → b.1.role ≠ .confirm →
          s.Numbered gate place b := by
  have prompting : ((start tenWays .default {}).takes []).phase = .prompting := rfl
  have waiting : ((start tenWays .default {}).takes []).playback.player.progress = .waitChoice :=
    rfl
  exact ⟨prompting, waiting, rfl, menu_numbered prompting waiting⟩

/-- The tenth way is shown with its number and could be pressed, but the number does not press
it. -/
theorem tenth_way_not_chosen :
    let s := (start tenWays .default {}).takes []
    s.phase = .prompting ∧ s.playback.player.progress = .waitChoice ∧
      s.menu[10]? = some "10. Way 10" ∧ (s.playback.press 9).1 = .navigate (.restart "far") ∧
      ¬ ∀ b ∈ s.playback.surface.stage.buttons, b.1.role ≠ .confirm →
        ∀ line, Text.trim line = toString (b.1.id + 1) →
          s.feed (.text line) = follow (maxIdleRestarts + 1) (s.pressButton b.1.id) := by
  refine ⟨rfl, rfl, by decide +kernel, rfl, fun chosen => ?_⟩
  have tenth : ∃ b : Button × ButtonState,
      ((start tenWays .default {}).takes []).playback.surface.stage.buttons[9]? = some b ∧
        b.1.role = .choice ∧ b.1.id = 9 := ⟨_, rfl, rfl, rfl⟩
  obtain ⟨b, there, role, number⟩ := tenth
  have pressed := chosen b (List.mem_of_getElem? there) (by simp [role]) "10\n"
    (by rw [number]; decide +kernel)
  rw [number] at pressed
  -- the menu is still that of the first timeline
  have key := congrArg (·.playback.player.timelineKey) pressed
  revert key
  decide +kernel

end Session

end VisualNovel
