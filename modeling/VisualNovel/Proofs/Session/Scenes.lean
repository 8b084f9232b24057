import VisualNovel.Proofs.Playback.Filed
import VisualNovel.Proofs.Session.Viewing

/-!
What is left of a scene in the next one. A host that goes on with another timeline does the same as
one that was never there before and finds the sounds playing.
-/

namespace VisualNovel.Session

/-- What a host has of the time before, and a new one has not. -/
structure Past where
  /-- Which records the host keeps. -/
  filter : Log.Filter
  records : Array Log.Entry
  output : String
  streams : Nat → Random

/-- The session of a host with a past. -/
def after (past : Past) (s : Session) : Session :=
  { s with
    config.log := past.filter
    playback := s.playback.filed past.filter past.records
    output := past.output ++ s.output
    streams := past.streams }

def Next.after (past : Past) (n : Next) : Next := (n.1.after past, n.2)

variable (past : Past) {s : Session}

theorem after_options (s : Session) : (s.after past).options = s.options := rfl

theorem after_print (s : Session) (text : String) :
    (s.after past).print text = (s.print text).after past := by
  simp [after, print, String.append_assoc]

theorem after_printLines (s : Session) (lines : List String) :
    (s.after past).printLines lines = (s.printLines lines).after past := s.after_print past _

theorem after_flush (s : Session) : (s.after past).flush = s.flush.after past :=
  s.look.2.after_print past s.look.1.text

theorem after_showState (s : Session) : (s.after past).showState = s.showState.after past :=
  s.after_printLines past _

theorem after_prompt (s : Session) : (s.after past).prompt = s.prompt.after past :=
  congrArg (fun s : Session => { s with phase := .prompting }) (s.after_print past "> ")

theorem after_route (s : Session) (n : Navigation) :
    (s.after past).route n = (s.route n).after past := by
  unfold route
  split
  · rfl
  · rw [after_printLines]
    rfl
  · rw [after_printLines]
    rfl

theorem after_present (s : Session) (g : Progress) :
    (s.after past).present g = (s.present g).after past := by
  have shown : (if (s.after past).flush.options.debug then (s.after past).flush.showState
      else (s.after past).flush) =
        (if s.flush.options.debug then s.flush.showState else s.flush).after past := by
    rw [after_flush, after_options]
    split
    · exact s.flush.after_showState past
    · rfl
  unfold present
  dsimp only
  rw [shown]
  generalize (if s.flush.options.debug then s.flush.showState else s.flush) = t
  cases g with
  | navigate n => exact t.after_route past n
  | ended | finished =>
    simp only [after_printLines]
    rfl
  | waitChoice =>
    have told : (t.after past).showButtons = t.showButtons.after past := t.after_printLines past _
    simp only [told, after_prompt]
    rfl
  | stalled =>
    simp only [after_printLines, after_prompt]
    rfl
  | typing | waitInput =>
    simp only [after_prompt]
    rfl

section Records

variable (all : s.playback.RecordsAll)
include all

theorem after_proceed (g : Progress) : (s.after past).proceed g = (s.proceed g).after past := by
  unfold proceed
  split
  · rw [after_options]
    split
    · rw [after_flush]
      rfl
    · have ticked : (s.after past).playback.tick (remainingTime (s.after past).playback) =
          (s.playback.tick (remainingTime s.playback)).map
            (Playback.filedAnswer past.filter past.records) :=
        Playback.filed_call all past.filter past.records (.tick (remainingTime s.playback))
      rw [ticked]
      cases s.playback.tick (remainingTime s.playback) with
      | error e => rfl
      | ok m => exact after_present past { s with playback := m.2 } m.1
  · exact s.after_present past _

theorem after_pressButton (id : Nat) :
    (s.after past).pressButton id = (s.pressButton id).after past := by
  let q : Session := { s with playback := (s.playback.press id).2 }
  have pressed : (s.after past).playback.press id =
      Playback.filedAnswer past.filter past.records (s.playback.press id) :=
    Except.ok.inj (Playback.filed_call all past.filter past.records (.press id))
  have kept : q.playback.RecordsAll :=
    all.setUp (Playback.step_setUp (Playback.press_step s.playback id))
  have refused (g : Progress) : ((q.after past).printLines ["(not accepted)"]).proceed g =
      ((q.printLines ["(not accepted)"]).proceed g).after past := by
    rw [after_printLines]
    exact after_proceed (s := q.printLines _) past kept g
  unfold pressButton
  rw [pressed]
  dsimp only [Playback.filedAnswer]
  split
  · rw [Playback.filed_surface]
    split
    · exact refused _
    · exact after_proceed (s := q) past kept _
  · exact after_proceed (s := q) past kept _

theorem after_obey (reply : Reply) : (s.after past).obey reply = (s.obey reply).after past := by
  cases reply with
  | quit =>
    simp only [obey, quit, after_printLines]
    rfl
  | advance =>
    have advanced : (s.after past).playback.advance =
        Playback.filedAnswer past.filter past.records s.playback.advance :=
      Except.ok.inj (Playback.filed_call all past.filter past.records .advance)
    have kept : s.playback.advance.2.RecordsAll := all.setUp
      (Playback.step_setUp (Playback.advance_step s.playback))
    simp only [obey]
    rw [advanced]
    exact after_proceed (s := { s with playback := s.playback.advance.2 }) past kept _
  | press id => exact after_pressButton past all id
  | confirm =>
    have same : (s.after past).playback.player.gate = s.playback.player.gate := rfl
    simp only [obey]
    rw [same, after_printLines]
    split
    · exact after_pressButton past all _
    · exact after_proceed (s := s.printLines _) past all _
  | unknown text =>
    simp only [obey, after_printLines]
    exact after_proceed (s := s.printLines _) past all _

theorem after_reaction (input : Input) :
    (s.after past).reaction input = (s.reaction input).after past := by
  have phase : (s.after past).phase = s.phase := rfl
  cases input with
  | line line =>
    simp only [reaction, phase]
    split
    · cases line with
      | text content => exact after_obey past all _
      | garbled => rfl
    · rfl
  | time time =>
    have ticked : (s.after past).playback.tick time =
        (s.playback.tick time).map (Playback.filedAnswer past.filter past.records) :=
      Playback.filed_call all past.filter past.records (.tick time)
    simp only [reaction, phase]
    split
    · next printed revealing =>
      rw [ticked]
      cases s.playback.tick time with
      | error e => rfl
      | ok m =>
        obtain ⟨g, playback⟩ := m
        let q : Session := { s with playback }
        let shown := String.ofList (playback.surface.stage.dialogText.toList.drop printed)
        have complete (g : Progress) :
            ((((q.after past).print shown).print "\n\n").look.2).present g =
              ((((q.print shown).print "\n\n").look.2).present g).after past := by
          rw [after_print, after_print]
          exact after_present past ((q.print shown).print "\n\n").look.2 g
        cases g with
        | typing =>
          have drawn := q.after_print past shown
          exact congrArg (fun s : Session => (({ s with
            phase := .revealing (printed + (playback.surface.stage.dialogText.toList.drop
              printed).length) }, none) : Next)) drawn
        | _ => exact complete _
    · rfl
  | closed =>
    simp only [reaction, phase]
    split
    · exact after_obey past all .quit
    · rfl

end Records

/-- Begin a timeline with the player that is there. -/
def enter (s : Session) (key : String) (index : Nat) : Next :=
  match s.playback.startNamed s.registry key index with
  | .ok (progress, playback) => { s with playback }.proceed progress
  | .error e => (s.finish (.error (.load e)), none)

theorem activate_eq_enter (s : Session) (key : String) (index : Nat) :
    s.activate key index = s.renew.enter key index := rfl

/-- Go on with inputs until another timeline is asked for or the session is over, and tell which
inputs are left. -/
def playOn : Next → List Input → Next × List Input
  | (s, some key), inputs => ((s, some key), inputs)
  | (s, none), [] => ((s, none), [])
  | (s, none), input :: rest =>
    if s.result?.isSome then ((s, none), input :: rest) else playOn (s.reaction input) rest

theorem Moves.recordsAll {r t : Progress × Session} (h : Moves r t)
    (all : r.2.playback.RecordsAll) : t.2.playback.RecordsAll := by
  induction h with
  | refl => exact all
  | told before settings playback view ih =>
    rw [playback]
    exact ih
  | looked before ih | asked before ih => exact ih
  | called before called ih => exact ih.setUp (Playback.step_setUp (Playback.call_step called))

theorem reaction_recordsAll (all : s.playback.RecordsAll) (input : Input) :
    (s.reaction input).1.playback.RecordsAll := by
  obtain unchanged | reached := s.reaction_cases .ended input
  · rw [unchanged]
    exact all
  · obtain ⟨g, moves, -⟩ := reached.moves
    exact moves.recordsAll all

theorem startNamed_recordsAll {p : Playback} {registry : Registry} {key : String} {index : Nat}
    {m : Progress × Playback} (all : p.RecordsAll)
    (started : p.startNamed registry key index = .ok m) : m.2.RecordsAll := by
  obtain ⟨timeline, -, rfl⟩ := Playback.startNamed_ok started
  exact Playback.RecordsAll.setUp (p := { p with player.timelineKey := some key }) all
    (Playback.startAt_setUp _ timeline index)

theorem enter_recordsAll (all : s.playback.RecordsAll) (key : String) (index : Nat) :
    (s.enter key index).1.playback.RecordsAll := by
  unfold enter
  split
  · next progress playback started =>
    obtain ⟨g, moves, -⟩ := (Moves.refl (r := (progress, { s with playback }))).proceed.moves
    exact moves.recordsAll (startNamed_recordsAll all started)
  · exact all

theorem after_enter (all : s.playback.RecordsAll) (key : String) (index : Nat) :
    (s.after past).enter key index = (s.enter key index).after past := by
  have started : (s.after past).playback.startNamed s.registry key index =
      (s.playback.startNamed s.registry key index).map
        (Playback.filedAnswer past.filter past.records) := by
    unfold Playback.startNamed
    cases s.registry.get key with
    | error e => rfl
    | ok timeline =>
      exact congrArg Except.ok (Playback.filed_startAt
        (p := { s.playback with player.timelineKey := some key }) all past.filter past.records
          timeline index)
  have registry : (s.after past).registry = s.registry := rfl
  unfold enter
  rw [registry, started]
  cases begun : s.playback.startNamed s.registry key index with
  | error e => rfl
  | ok m =>
    exact after_proceed (s := { s with playback := m.2 }) past (startNamed_recordsAll all begun) m.1

theorem playOn_after {n : Next} (all : n.1.playback.RecordsAll) (inputs : List Input) :
    playOn (n.after past) inputs = ((playOn n inputs).1.after past, (playOn n inputs).2) := by
  induction inputs generalizing n with
  | nil => obtain ⟨s, _ | key⟩ := n <;> rfl
  | cons input rest ih =>
    obtain ⟨s, _ | key⟩ := n
    · have result : (s.after past).result? = s.result? := rfl
      simp only [Next.after, playOn, result]
      split
      · rfl
      · rw [after_reaction past all]
        exact ih (reaction_recordsAll all input)
    · rfl

/-- A session that goes on with another timeline is still in the phase of before. -/
def Next.within (phase : Phase) : Next → Next
  | (s, none) => (s, none)
  | (s, some key) => ({ s with phase }, some key)

theorem present_within (s : Session) (phase : Phase) (g : Progress) :
    ({ s with phase } : Session).present g = (s.present g).within phase := by
  have shown : ∃ t : Session, ∀ phase, (if ({ s with phase } : Session).flush.options.debug
      then ({ s with phase } : Session).flush.showState else ({ s with phase } : Session).flush) =
        { t with phase } := by
    cases debug : s.options.debug with
    | true => exact ⟨s.flush.showState, fun phase => if_pos debug⟩
    | false => exact ⟨s.flush, fun phase => if_neg (Bool.eq_false_iff.1 debug)⟩
  obtain ⟨t, shown⟩ := shown
  have here := shown s.phase
  unfold present
  dsimp only at here ⊢
  rw [shown phase, here]
  cases g with
  | navigate n =>
    simp only [route]
    split <;> rfl
  | _ => rfl

theorem proceed_within (s : Session) (phase : Phase) (g : Progress) :
    ({ s with phase } : Session).proceed g = (s.proceed g).within phase := by
  unfold proceed
  split
  · dsimp only
    split
    · rfl
    · split
      · next g playback ticked => exact present_within { s with playback } phase g
      · rfl
  · exact s.present_within phase _

theorem enter_within (s : Session) (phase : Phase) (key : String) (index : Nat) :
    ({ s with phase } : Session).enter key index = (s.enter key index).within phase := by
  unfold enter
  dsimp only
  split
  · next g playback started => exact proceed_within { s with playback } phase g
  · rfl

/-- What a session has from its beginning to its end. -/
structure Equipped (given : Registry × Config × Options) (n : Next) : Prop where
  settings : n.1.settings = given
  canvas : n.1.playback.canvas = given.2.1.canvas

variable {given : Registry × Config × Options}

theorem Moves.canvas {r t : Progress × Session} (h : Moves r t) :
    t.2.playback.canvas = r.2.playback.canvas := by
  induction h with
  | refl => rfl
  | told before settings playback view ih =>
    rw [playback]
    exact ih
  | looked before ih | asked before ih => exact ih
  | called before called ih =>
    exact (Playback.step_performed (Playback.call_step called)).canvas.trans ih

theorem Next.Reached.equipped {r : Progress × Session} {n : Next} (h : Next.Reached r n)
    (equipped : Equipped given (r.2, none)) : Equipped given n := by
  obtain ⟨g, moves, -⟩ := h.moves
  exact ⟨moves.settings.trans equipped.settings, moves.canvas.trans equipped.canvas⟩

theorem Equipped.activate (h : Equipped given (s, none)) (key : String) (index : Nat) :
    Equipped given (s.activate key index) := by
  obtain ⟨m, started, reached⟩ | ⟨-, missing⟩ := s.activate_cases key index
  · obtain ⟨timeline, -, rfl⟩ := Playback.startNamed_ok started
    exact reached.equipped
      ⟨h.settings, (Playback.startAt_performed _ timeline index).canvas.trans h.canvas⟩
  · rw [missing]
    exact ⟨h.settings, h.canvas⟩

theorem kept_equipped : Kept (Equipped given) where
  activated {s key} h := Equipped.activate (s := s.noteRestart key)
    ⟨h.settings, (congrArg (·.stage.canvas) (s.noteRestart_surface key)).trans h.canvas⟩ key 0
  endless {s key} h :=
    ⟨h.settings, (congrArg (·.stage.canvas) (s.noteRestart_surface key)).trans h.canvas⟩
  reacted {s} input h := by
    obtain unchanged | reached := s.reaction_cases .ended input
    · rw [unchanged]
      exact h
    · exact reached.equipped h

theorem equipped_opening (registry : Registry) (config : Config) (options : Options)
    (streams : Nat → Random) :
    Equipped (registry, config, options) (opening registry config options streams) := by
  unfold opening
  dsimp only
  split
  · exact ⟨rfl, rfl⟩
  · refine Equipped.activate ?_ _ _
    exact ⟨rfl, rfl⟩

/-- A host that begins where nothing but some sounds is there. -/
def newcomer (registry : Registry) (config : Config) (options : Options) (streams : Nat → Random)
    (sounds : Dict Bool) : Session where
  registry
  config
  options
  playback := .ofConfig config ⟨{ canvas := config.canvas, sounds }, #[]⟩
  view := { sounds := sounds.map fun _ => () }
  streams

/-- Two activations, of which the first began when something was printed already, are alike in all
that can be observed: what they print, where they lead or what they wait for or end with, what they
read, and what is left behind. -/
structure Alike (printed : String) (old new : Next × List Input) : Prop where
  text : old.1.1.output = printed ++ new.1.1.output
  next : old.1.2 = new.1.2
  phase : old.1.2 = none → old.1.1.phase = new.1.1.phase
  left : old.2 = new.2
  surface : old.1.1.playback.surface = new.1.1.playback.surface
  player : old.1.1.playback.player = new.1.1.playback.player
  view : old.1.1.view = new.1.1.view

/-- What both hosts have when they begin with a timeline, apart from their past. -/
def scene (registry : Registry) (config : Config) (options : Options) (sounds : Dict Bool) :
    Session :=
  newcomer registry { config with log := .verbose } options (fun _ => .ofSeed 0) sounds

variable {registry : Registry} {config : Config} {options : Options}

theorem scene_recordsAll (sounds : Dict Bool) :
    (scene registry config options sounds).playback.RecordsAll := rfl

theorem scene_after (records : Array Log.Entry) (output : String) (streams : Nat → Random)
    (sounds : Dict Bool) :
    (scene registry config options sounds).after ⟨config.log, records, output, streams⟩ =
      { newcomer registry config options streams sounds with
        playback.records := records
        output } := by
  have recorded : records ++ (#[] : Array Log.Entry).filter config.log.keeps = records := by simp
  have printed : output ++ "" = output := String.append_empty
  simp only [scene, newcomer, after, Playback.ofConfig, Playback.filed, recorded, printed]

variable {seed : Nat} (seeded : config.seed = some seed)
include seeded

theorem ofConfig_seeded (surface : Surface) (unseeded : Random) :
    Playback.ofConfig config surface unseeded = .ofConfig config surface := by
  simp [Playback.ofConfig, seeded]

theorem newcomer_renew (streams : Nat → Random) (sounds : Dict Bool) :
    (newcomer registry config options streams sounds).renew =
      newcomer registry config options (fun n => streams (n + 1)) sounds :=
  congrArg (fun playback : Playback =>
    { newcomer registry config options (fun n => streams (n + 1)) sounds with playback })
      (ofConfig_seeded seeded ⟨{ canvas := config.canvas, sounds }, #[]⟩ (streams 0))

/-- A host that goes on with another timeline has a past, and nothing else that is left. -/
theorem noteRestart_renew {key : String}
    (equipped : Equipped (registry, config, options) (s, some key)) (upToDate : s.UpToDate) :
    (s.noteRestart key).renew =
      { newcomer registry config options (fun n => s.streams (n + 1))
          s.playback.surface.stage.sounds with
        playback.records := (s.noteRestart key).playback.records
        output := s.output
        phase := s.phase } := by
  obtain ⟨settings, canvas⟩ := equipped
  have sounds : s.view.sounds = s.playback.surface.stage.sounds.map fun _ => () :=
    Dict.eq_map_unit upToDate.shows.sounds
  have surface : (s.noteRestart key).playback.surface.reset =
      ⟨{ canvas := config.canvas, sounds := s.playback.surface.stage.sounds }, #[]⟩ := by
    rw [noteRestart_surface, ← canvas]
    rfl
  have view : (s.noteRestart key).view.reset =
      { sounds := s.playback.surface.stage.sounds.map fun _ => () } := by
    rw [noteRestart_view, View.reset, sounds]
  obtain ⟨rfl, rfl, rfl⟩ : s.registry = registry ∧ s.config = config ∧ s.options = options := by
    simpa [Session.settings] using settings
  have same : (s.noteRestart key).config = s.config := rfl
  unfold renew
  rw [surface, view, same, ofConfig_seeded seeded]
  rfl

theorem newcomer_activate (streams : Nat → Random) (sounds : Dict Bool) (key : String) :
    (newcomer registry config options streams sounds).activate key 0 =
      ((scene registry config options sounds).enter key 0).after
        ⟨config.log, #[], "", fun n => streams (n + 1)⟩ := by
  rw [← after_enter _ (scene_recordsAll sounds), scene_after, activate_eq_enter,
    newcomer_renew seeded]
  rfl

theorem noteRestart_activate {key : String}
    (equipped : Equipped (registry, config, options) (s, some key)) (upToDate : s.UpToDate) :
    (s.noteRestart key).activate key 0 =
      (((scene registry config options s.playback.surface.stage.sounds).enter key 0).after
        ⟨config.log, (s.noteRestart key).playback.records, s.output,
          fun n => s.streams (n + 1)⟩).within s.phase := by
  rw [← after_enter _ (scene_recordsAll _), scene_after, ← enter_within, activate_eq_enter,
    noteRestart_renew seeded equipped upToDate]

/-- At a restart with a seed, whatever was played before, the next activation is like that of a host
that was never there before and finds the same sounds playing. -/
theorem restart_leaves_sounds {streams : Nat → Random} (inputs : List Input)
    {t : Session × String} (mem : t ∈ allTurns registry config options streams inputs)
    (rest : List Input) (others : Nat → Random) :
    Alike t.1.output (playOn ((t.1.noteRestart t.2).activate t.2 0) rest)
      (playOn ((newcomer registry config options others
        t.1.playback.surface.stage.sounds).activate t.2 0) rest) := by
  obtain ⟨s, key⟩ := t
  have equipped : Equipped (registry, config, options) (s, some key) :=
    (kept_equipped.session (equipped_opening registry config options streams) inputs).2 _ mem
  have upToDate : s.UpToDate :=
    ((kept_viewed.session (viewed_opening registry config options streams) inputs).2 _
      mem).upToDate (.inl rfl)
  have all : ((scene registry config options s.playback.surface.stage.sounds).enter
      key 0).1.playback.RecordsAll := enter_recordsAll (scene_recordsAll _) key 0
  rw [newcomer_activate seeded, noteRestart_activate seeded equipped upToDate, playOn_after _ all]
  -- both go on from what the scene brings, one of them with a past
  generalize (scene registry config options s.playback.surface.stage.sounds).enter key 0 = n
    at all ⊢
  obtain ⟨t, _ | next⟩ := n
  · have going := playOn_after ⟨config.log, (s.noteRestart key).playback.records, s.output,
      fun n => s.streams (n + 1)⟩ all rest
    simp only [Next.after, Next.within] at going ⊢
    rw [going]
    constructor <;> simp [after]
  · constructor <;> simp [Next.after, Next.within, playOn, after]

omit seeded

/-- A scene with an image, a sound and a gate, and one that begins with a line. -/
def harbour : Registry :=
  (Registry.insert {} "shore" [.addForeground ⟨"boat", none, none⟩, .playSound ⟨"waves", true⟩,
    .choice [⟨"Go", "cave"⟩]]).insert "cave" [.dialog { text := "Hi" }, .clearSound "waves"]

def seededConfig : Config := { Config.default with seed := some 7 }

theorem cave_alike : ∃ t, allTurns harbour seededConfig { start := "shore", animate := false }
      (fun _ => .ofSeed 0) [.line (.text "1")] = [t] ∧
    t.2 = "cave" ∧ t.1.view.foreground = ["boat"] ∧
    t.1.playback.surface.stage.sounds.keys = ["waves"] ∧
    Alike t.1.output
      (playOn ((t.1.noteRestart t.2).activate t.2 0) [.line (.text ""), .line (.text "q")])
      (playOn ((newcomer harbour seededConfig { start := "shore", animate := false }
        (fun _ => .ofSeed 0) t.1.playback.surface.stage.sounds).activate t.2 0)
          [.line (.text ""), .line (.text "q")]) := by
  have once : ∃ t, allTurns harbour seededConfig { start := "shore", animate := false }
      (fun _ => .ofSeed 0) [.line (.text "1")] = [t] := ⟨_, rfl⟩
  obtain ⟨t, turns⟩ := once
  have told : (allTurns harbour seededConfig { start := "shore", animate := false }
      (fun _ => .ofSeed 0) [.line (.text "1")]).map (fun t =>
        (t.2, t.1.view.foreground, t.1.playback.surface.stage.sounds.keys)) =
          [("cave", ["boat"], ["waves"])] := rfl
  rw [turns] at told
  simp only [List.map_cons, List.map_nil, List.cons.injEq, Prod.mk.injEq, and_true] at told
  obtain ⟨key, foreground, sounds⟩ := told
  have mem : t ∈ allTurns harbour seededConfig { start := "shore", animate := false }
      (fun _ => .ofSeed 0) [.line (.text "1")] := by
    rw [turns]
    exact List.mem_singleton_self t
  have alike := @restart_leaves_sounds harbour seededConfig { start := "shore", animate := false }
    7 rfl (fun _ => .ofSeed 0) [.line (.text "1")] t mem [.line (.text ""), .line (.text "q")]
      (fun _ => .ofSeed 0)
  exact ⟨t, turns, key, foreground, sounds, alike⟩

end VisualNovel.Session
