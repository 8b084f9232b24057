import VisualNovel.Proofs.Playback.Calls
import VisualNovel.Proofs.Session.Fields

namespace VisualNovel.Session

/-- What a session is given once and for all. -/
def settings (s : Session) : Registry × Config × Options := (s.registry, s.config, s.options)

/-- What a host does with its player: it makes calls, takes the commands of the surface into its
view and prints. It goes on from the answer to the last call, or from what is waited for. -/
inductive Moves (r : Progress × Session) : Progress × Session → Prop where
  | refl : Moves r r
  | told {g : Progress} {s t : Session} (before : Moves r (g, s))
      (settings : t.settings = s.settings) (playback : t.playback = s.playback)
      (view : t.view = s.view) : Moves r (g, t)
  | looked {g : Progress} {s : Session} (before : Moves r (g, s)) : Moves r (g, s.look.2)
  | called {g : Progress} {s : Session} {c : Playback.Call} {m : Progress × Playback}
      (before : Moves r (g, s)) (called : s.playback.call c = .ok m) :
      Moves r (m.1, { s with playback := m.2 })
  | asked {g : Progress} {s : Session} (before : Moves r (g, s)) :
      Moves r (s.playback.player.progress, s)

/-- A session goes on with a timeline when its player asks for it, and then, as at a prompt, no
command was overlooked. -/
structure Next.Reached (r : Progress × Session) (n : Next) : Prop where
  moves : ∃ g, Moves r (g, n.1) ∧ ∀ key, n.2 = some key →
    ∃ navigation, g = .navigate navigation ∧ Route.ofNavigation navigation = .restart key
  looked : n.2.isSome = true ∨ n.1.phase = .prompting → n.1.playback.surface.log = #[]

variable {r : Progress × Session} {g : Progress} {s : Session}

theorem reached_of_looked (h : Moves r (g, s)) (looked : s.playback.surface.log = #[]) :
    Next.Reached r (s, none) :=
  ⟨⟨g, h, nofun⟩, fun _ => looked⟩

theorem reached_of_ne_prompting (h : Moves r (g, s)) (other : s.phase ≠ .prompting) :
    Next.Reached r (s, none) := by
  refine ⟨⟨g, h, nofun⟩, ?_⟩
  rintro (next | prompting)
  · cases next
  · exact (other prompting).elim

namespace Moves

theorem print (h : Moves r (g, s)) (text : String) : Moves r (g, s.print text) :=
  h.told rfl rfl rfl

theorem printLines (h : Moves r (g, s)) (lines : List String) : Moves r (g, s.printLines lines) :=
  h.told rfl rfl rfl

theorem present (h : Moves r (g, s)) : Next.Reached r (s.present g) := by
  -- the state is printed or not; the surface was looked at either way
  obtain ⟨t, shown, empty, told⟩ : ∃ t : Session, Moves r (g, t) ∧
      t.playback.surface.log = #[] ∧
        t = if s.flush.options.debug then s.flush.showState else s.flush := by
    have flushed : Moves r (g, s.flush) := h.looked.told rfl rfl rfl
    cases debug : s.flush.options.debug with
    | true => exact ⟨s.flush.showState, flushed.told rfl rfl rfl, rfl, rfl⟩
    | false => exact ⟨s.flush, flushed, rfl, rfl⟩
  unfold Session.present
  dsimp only
  rw [← told]
  cases g with
  | navigate n =>
    simp only [route]
    split
    · next timeline restart =>
      refine ⟨⟨_, shown, ?_⟩, fun _ => empty⟩
      rintro key ⟨⟩
      exact ⟨n, rfl, restart⟩
    · exact reached_of_looked (shown.told rfl rfl rfl) empty
    · exact reached_of_looked (shown.told rfl rfl rfl) empty
  | _ => exact reached_of_looked (shown.told rfl rfl rfl) empty

theorem finish (h : Moves r (g, s)) (result : Except Failure Outcome) :
    Next.Reached r (s.finish result, none) :=
  reached_of_ne_prompting (h.told rfl rfl rfl) nofun

theorem proceed (h : Moves r (g, s)) : Next.Reached r (s.proceed g) := by
  unfold Session.proceed
  split
  · split
    · exact reached_of_ne_prompting (h.looked.told rfl rfl rfl) nofun
    · split
      · next progress playback ticked => exact (h.called (c := .tick _) ticked).present
      · exact h.finish _
  · exact h.present

theorem pressButton (h : Moves r (g, s)) (id : Nat) : Next.Reached r (s.pressButton id) := by
  have pressed := h.called (c := .press id) rfl
  unfold Session.pressButton
  dsimp only
  split
  · split
    · exact (pressed.printLines _).proceed
    · exact pressed.proceed
  · exact pressed.proceed

theorem obey (h : Moves r (g, s)) (reply : Reply) : Next.Reached r (s.obey reply) := by
  cases reply with
  | quit => exact (h.printLines _).finish _
  | advance => exact (h.called (c := .advance) rfl).proceed
  | press id => exact h.pressButton id
  | confirm =>
    simp only [Session.obey]
    split
    · exact h.pressButton _
    · exact (h.asked.printLines _).proceed
  | unknown text => exact (h.asked.printLines _).proceed

theorem settings {t : Progress × Session} (h : Moves r t) : t.2.settings = r.2.settings := by
  induction h with
  | refl => rfl
  | told before settings playback view ih => exact settings.trans ih
  | looked before ih | called before called ih | asked before ih => exact ih

theorem registry {t : Progress × Session} (h : Moves r t) : t.2.registry = r.2.registry :=
  congrArg Prod.fst h.settings

theorem restarts {t : Progress × Session} (h : Moves r t) :
    t.2.playback.restarts = r.2.playback.restarts := by
  induction h with
  | refl => rfl
  | told before settings playback view ih => exact (congrArg _ playback).trans ih
  | looked before ih | asked before ih => exact ih
  | called before called ih => exact (Playback.call_restarts called).trans ih

end Moves

/-- What comes of an input, before other timelines are activated. -/
def reaction (s : Session) : Input → Next
  | .line line =>
    match s.phase with
    | .prompting =>
      match line with
      | .text content => s.obey (.ofLine content)
      | .garbled => (s.finish (.error .garbled), none)
    | _ => (s, none)
  | .time time =>
    match s.phase with
    | .revealing printed =>
      match s.playback.tick time with
      | .error _ => (s.finish (.error .clock), none)
      | .ok (progress, playback) =>
        let s := { s with playback }
        let fresh := playback.surface.stage.dialogText.toList.drop printed
        let s := s.print (String.ofList fresh)
        match progress with
        | .typing => ({ s with phase := .revealing (printed + fresh.length) }, none)
        | progress => ((s.print "\n\n").look.2).present progress
    | _ => (s, none)
  | .closed =>
    match s.phase with
    | .prompting => (s.quit, none)
    | _ => (s, none)

theorem take_eq (s : Session) (input : Input) :
    s.take input = follow (maxIdleRestarts + 1) (s.reaction input) := by
  cases input with
  | line line =>
    simp only [take, feed, reaction]
    cases s.phase with
    | prompting => cases line <;> rfl
    | _ => rfl
  | time time =>
    simp only [take, wake, reaction]
    cases s.phase with
    | revealing printed =>
      dsimp only
      cases s.playback.tick time with
      | error e => rfl
      | ok m =>
        obtain ⟨g, playback⟩ := m
        cases g <;> rfl
    | _ => rfl
  | closed =>
    simp only [take, endInput, reaction]
    cases s.phase <;> rfl

theorem reaction_cases (s : Session) (g : Progress) (input : Input) :
    s.reaction input = (s, none) ∨ Next.Reached (g, s) (s.reaction input) := by
  have here : Moves (g, s) (g, s) := .refl
  cases input with
  | line line =>
    simp only [reaction]
    split
    · cases line with
      | text content => exact .inr (here.obey _)
      | garbled => exact .inr (here.finish _)
    · exact .inl rfl
  | time time =>
    simp only [reaction]
    split
    · split
      · exact .inr (here.finish _)
      · next progress playback ticked =>
        have called := here.called (c := .tick time) ticked
        split
        · exact .inr (reached_of_ne_prompting (called.told rfl rfl rfl) nofun)
        · -- what was printed of the line is not told again
          exact .inr ((called.print _).print _).looked.present
    · exact .inl rfl
  | closed =>
    simp only [reaction]
    split
    · exact .inr ((here.printLines _).finish _)
    · exact .inl rfl

theorem reaction_restarts (s : Session) (input : Input) :
    (s.reaction input).1.playback.restarts = s.playback.restarts := by
  obtain unchanged | reached := s.reaction_cases .ended input
  · rw [unchanged]
  · obtain ⟨g, moves, -⟩ := reached.moves
    exact moves.restarts

theorem activate_cases (s : Session) (key : String) (index : Nat) :
    (∃ m, s.renew.playback.startNamed s.registry key index = .ok m ∧
        Next.Reached (m.1, { s.renew with playback := m.2 }) (s.activate key index)) ∨
      s.registry.contains key = false ∧
        s.activate key index = (s.renew.finish (.error (.load (.unknownTimeline key))), none) := by
  have registry : s.renew.registry = s.registry := rfl
  unfold Session.activate
  dsimp only
  rw [registry]
  cases started : s.renew.playback.startNamed s.registry key index with
  | ok m => exact .inl ⟨m, rfl, Moves.refl.proceed⟩
  | error e =>
    obtain ⟨rfl, missing⟩ := Playback.startNamed_error started
    exact .inr ⟨missing, rfl⟩

theorem activate_restarts (s : Session) (key : String) (index : Nat) :
    (s.activate key index).1.playback.restarts = s.playback.restarts := by
  obtain ⟨m, started, reached⟩ | ⟨-, missing⟩ := s.activate_cases key index
  · obtain ⟨timeline, -, same⟩ := Playback.startNamed_ok started
    obtain ⟨g, moves, -⟩ := reached.moves
    rw [moves.restarts, same]
    exact Playback.startAt_restarts _ timeline index
  · rw [missing]
    rfl

def opening (registry : Registry) (config : Config) (options : Options)
    (streams : Nat → Random) : Next :=
  let s : Session :=
    { registry, config, options, playback := .ofConfig config (.ofCanvas config.canvas), streams }
  match registry.get options.start with
  | .error e => (s.finish (.error (.load e)), none)
  | .ok _ => (s.printLines controls).activate options.start (options.index.getD 0)

theorem start_eq (registry : Registry) (config : Config) (options : Options)
    (streams : Nat → Random) : start registry config options streams =
      follow maxIdleRestarts (opening registry config options streams) := by
  unfold start opening
  dsimp only
  cases registry.get options.start <;> rfl

/-- The sessions that go on with another timeline, each with that timeline. The last one fails when
there were too many. -/
def turns : Nat → Next → List (Session × String)
  | _, (_, none) => []
  | 0, (s, some key) => [(s, key)]
  | patience + 1, (s, some key) => (s, key) :: turns patience ((s.noteRestart key).activate key 0)

def turnsOf (s : Session) : List Input → List (Session × String)
  | [] => []
  | input :: rest => turns (maxIdleRestarts + 1) (s.reaction input) ++ (s.take input).turnsOf rest

def allTurns (registry : Registry) (config : Config) (options : Options)
    (streams : Nat → Random) (inputs : List Input) : List (Session × String) :=
  turns maxIdleRestarts (opening registry config options streams) ++
    (start registry config options streams).turnsOf inputs

theorem follow_restarts (patience : Nat) (n : Next) : (follow patience n).playback.restarts =
    n.1.playback.restarts ++ (turns patience n).map Prod.snd := by
  induction patience generalizing n with
  | zero =>
    obtain ⟨s, next⟩ := n
    cases next with
    | none => simp [follow, turns]
    | some key => simp [follow, turns]
  | succ patience ih =>
    obtain ⟨s, next⟩ := n
    cases next with
    | none => simp [follow, turns]
    | some key => simp [follow, turns, ih, activate_restarts]

theorem takes_restarts (s : Session) (inputs : List Input) :
    (s.takes inputs).playback.restarts =
      s.playback.restarts ++ (s.turnsOf inputs).map Prod.snd := by
  induction inputs generalizing s with
  | nil => simp [takes, turnsOf]
  | cons input rest ih =>
    have later := ih (s.take input)
    rw [take_eq, follow_restarts, reaction_restarts, ← take_eq] at later
    simpa [takes, turnsOf] using later

theorem opening_restarts (registry : Registry) (config : Config) (options : Options)
    (streams : Nat → Random) :
    (opening registry config options streams).1.playback.restarts = [] := by
  unfold opening
  dsimp only
  split
  · rfl
  · rw [activate_restarts]
    rfl

/-- The host recorded all restarts, and no others. -/
theorem allTurns_recorded (registry : Registry) (config : Config) (options : Options)
    (streams : Nat → Random) (inputs : List Input) :
    (allTurns registry config options streams inputs).map Prod.snd =
      ((start registry config options streams).takes inputs).playback.restarts := by
  rw [takes_restarts, start_eq, follow_restarts, opening_restarts, allTurns, List.map_append,
    start_eq]
  rfl

/-- What holds of a session as it is opened, and is kept by whatever it does. -/
structure Kept (Inv : Next → Prop) : Prop where
  activated : ∀ {s : Session} {key : String}, Inv (s, some key) →
    Inv ((s.noteRestart key).activate key 0)
  endless : ∀ {s : Session} {key : String}, Inv (s, some key) →
    Inv ((s.noteRestart key).finish (.error (.endless key)), none)
  reacted : ∀ {s : Session} (input : Input), Inv (s, none) → Inv (s.reaction input)

variable {Inv : Next → Prop}

theorem Kept.follow (kept : Kept Inv) {n : Next} (h : Inv n) (patience : Nat) :
    Inv (Session.follow patience n, none) ∧ ∀ t ∈ turns patience n, Inv (t.1, some t.2) := by
  induction patience generalizing n with
  | zero =>
    obtain ⟨s, next⟩ := n
    cases next with
    | none => exact ⟨h, by simp [turns]⟩
    | some key => exact ⟨kept.endless h, by simpa [turns] using h⟩
  | succ patience ih =>
    obtain ⟨s, next⟩ := n
    cases next with
    | none => exact ⟨h, by simp [turns]⟩
    | some key =>
      obtain ⟨last, later⟩ := ih (kept.activated h)
      exact ⟨last, List.forall_mem_cons.2 ⟨h, later⟩⟩

theorem Kept.takes (kept : Kept Inv) {s : Session} (h : Inv (s, none)) (inputs : List Input) :
    Inv (s.takes inputs, none) ∧ ∀ t ∈ s.turnsOf inputs, Inv (t.1, some t.2) := by
  induction inputs generalizing s with
  | nil => exact ⟨h, by simp [turnsOf]⟩
  | cons input rest ih =>
    obtain ⟨next, turned⟩ := kept.follow (kept.reacted input h) (maxIdleRestarts + 1)
    rw [← take_eq] at next
    obtain ⟨last, later⟩ := ih next
    exact ⟨last, List.forall_mem_append.2 ⟨turned, later⟩⟩

theorem Kept.session (kept : Kept Inv) {registry : Registry} {config : Config} {options : Options}
    {streams : Nat → Random} (opened : Inv (opening registry config options streams))
    (inputs : List Input) :
    Inv ((start registry config options streams).takes inputs, none) ∧
      ∀ t ∈ allTurns registry config options streams inputs, Inv (t.1, some t.2) := by
  obtain ⟨begun, turned⟩ := kept.follow opened maxIdleRestarts
  rw [← start_eq] at begun
  obtain ⟨last, later⟩ := kept.takes begun inputs
  exact ⟨last, List.forall_mem_append.2 ⟨turned, later⟩⟩

end VisualNovel.Session
