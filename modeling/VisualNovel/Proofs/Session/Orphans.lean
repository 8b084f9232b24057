import Mathlib.Data.List.Chain
import VisualNovel.Proofs.Lint.Flow
import VisualNovel.Proofs.Session.Hosting
import VisualNovel.Proofs.Session.Patience

/-!
Whether a session plays timelines that are told not to be found. The search follows all that events
lead to but two things that they do not name: the timeline without a name, to which a transition can
lead, and the one with which the main scene begins when its data name none.
-/

namespace VisualNovel

/-- The event leads to a timeline that is not looked for. -/
inductive Event.Overlooks : Event → String → Prop where
  | unnamed : Overlooks (.timelineTransition "") ""
  | main {jump : SceneJump} (main : jump.key = mainScene)
      (unnamed : Route.namedTimeline? jump.data = none) :
      Overlooks (.sceneTransition jump) defaultTimeline

theorem Event.LeadsTo.mem_or_overlooks {e : Event} {key : String} (h : e.LeadsTo key) :
    key ∈ e.successors ∨ e.Overlooks key := by
  cases h with
  | destination mem unnamed =>
    by_cases empty : key = ""
    · subst empty
      rw [unnamed rfl]
      exact .inr .unnamed
    · exact .inl (List.mem_append_left _ (List.mem_filter.2 ⟨mem, by simpa using empty⟩))
  | @main jump main =>
    cases named : Route.namedTimeline? jump.data with
    | none => exact .inr (.main main named)
    | some name => exact .inl (List.mem_append_right _ (by simp [named]))

/-- Some event of the one timeline leads to the other, and the search overlooks it. -/
def Registry.Overlooks (r : Registry) (name key : String) : Prop :=
  ∃ timeline e, r.find? name = some timeline ∧ e ∈ timeline ∧ e.Overlooks key

theorem Registry.Overlooks.key_eq {r : Registry} {name key : String} (h : r.Overlooks name key) :
    key = defaultTimeline ∨ key = "" := by
  obtain ⟨timeline, e, -, -, overlooks⟩ := h
  cases overlooks with
  | unnamed => exact .inr rfl
  | main => exact .inl rfl

theorem Registry.Leads.overlooks {config : Lint.Config} {r : Registry} {name key : String}
    (registered : r.contains config.flow.entry = true) (h : r.Leads name key)
    (found : ¬ Lint.Orphan config r name) (orphan : Lint.Orphan config r key) :
    r.Overlooks name key := by
  obtain ⟨timeline, e, there, mem, leads⟩ := h
  obtain next | overlooks := leads.mem_or_overlooks
  · exact (Lint.not_orphan_of_successor registered found there mem next orphan).elim
  · exact ⟨timeline, e, there, mem, overlooks⟩

/-- A chain that comes to a property has a first link at which it does. -/
theorem exists_link {α : Type} {R : α → α → Prop} {P : α → Prop} {first : α} {l : List α}
    (chain : (first :: l).IsChain R) (before : ¬ P first) (after : ∃ a ∈ first :: l, P a) :
    ∃ a b, [a, b] <:+: first :: l ∧ ¬ P a ∧ P b ∧ R a b := by
  induction l generalizing first with
  | nil =>
    obtain ⟨a, mem, holds⟩ := after
    obtain rfl := List.mem_singleton.1 mem
    exact (before holds).elim
  | cons second rest ih =>
    obtain ⟨link, tail⟩ := List.isChain_cons_cons.1 chain
    by_cases holds : P second
    · exact ⟨first, second, ⟨[], rest, by simp⟩, before, holds, link⟩
    · obtain ⟨a, mem, found⟩ := after
      have later : a ∈ second :: rest := by
        refine (List.mem_cons.1 mem).resolve_left ?_
        rintro rfl
        exact before found
      obtain ⟨a, b, link, rest⟩ := ih tail holds ⟨a, later, found⟩
      exact ⟨a, b, link.trans (List.infix_cons List.infix_rfl), rest⟩

namespace Session

namespace Moves

variable {r : Registry} {a b : Progress × Session}

theorem hosted (h : Moves a b) (hosted : Playback.Hosted r (a.1, a.2.playback)) :
    Playback.Hosted r (b.1, b.2.playback) := by
  induction h with
  | refl => exact hosted
  | told before settings playback view ih =>
    rw [playback]
    exact ih
  | looked before ih => exact ih.looked
  | called before called ih => exact ih.called called
  | asked before ih => exact ih.asked

theorem timelineKey (h : Moves a b) :
    b.2.playback.player.timelineKey = a.2.playback.player.timelineKey := by
  induction h with
  | refl => rfl
  | told before settings playback view ih =>
    rw [playback]
    exact ih
  | looked before ih | asked before ih => exact ih
  | called before called ih =>
    exact (Playback.step_timelineKey (Playback.call_step called)).trans ih

end Moves

/-- The timeline that the session is in after some restarts. -/
def current (first : String) (restarts : List String) : String := restarts.getLast?.getD first

/-- Each timeline leads to the one that the host went on with. -/
structure Chained (r : Registry) (first : String) (n : Next) : Prop where
  registry : n.1.registry = r
  chain : (first :: n.1.playback.restarts).IsChain r.Leads
  hosted : n.1.result? = none → ∃ g, Playback.Hosted r (g, n.1.playback) ∧
    n.1.playback.player.timelineKey = some (current first n.1.playback.restarts)
  next : ∀ key, n.2 = some key → r.Leads (current first n.1.playback.restarts) key

variable {r : Registry} {first : String}

theorem Next.Reached.chained {a : Progress × Session} {n : Next} (h : Next.Reached a n)
    (registry : a.2.registry = r) (chain : (first :: a.2.playback.restarts).IsChain r.Leads)
    (hosted : Playback.Hosted r (a.1, a.2.playback))
    (named : a.2.playback.player.timelineKey = some (current first a.2.playback.restarts)) :
    Chained r first n := by
  obtain ⟨g, moves, next⟩ := h.moves
  have restarts : n.1.playback.restarts = a.2.playback.restarts := moves.restarts
  have hosted : Playback.Hosted r (g, n.1.playback) := moves.hosted hosted
  have named : n.1.playback.player.timelineKey = some (current first n.1.playback.restarts) := by
    rw [restarts, ← named]
    exact moves.timelineKey
  refine ⟨moves.registry.trans registry, restarts ▸ chain, fun _ => ⟨g, hosted, named⟩, ?_⟩
  intro key asked
  obtain ⟨n, rfl, route⟩ := next key asked
  obtain ⟨name, here, leads⟩ := hosted.leads route
  obtain rfl : name = _ := Option.some.inj (here.symm.trans named)
  exact leads

theorem chained_finish {s : Session} (registry : s.registry = r)
    (chain : (first :: s.playback.restarts).IsChain r.Leads) (result : Except Failure Outcome) :
    Chained r first (s.finish result, none) :=
  ⟨registry, chain, nofun, nofun⟩

theorem chained_activate {s : Session} {key : String} (registry : s.registry = r)
    (chain : (first :: s.playback.restarts).IsChain r.Leads)
    (last : current first s.playback.restarts = key) (index : Nat) :
    Chained r first (s.activate key index) := by
  obtain ⟨m, started, reached⟩ | ⟨-, missing⟩ := s.activate_cases key index
  · rw [registry] at started
    obtain ⟨timeline, -, same⟩ := Playback.startNamed_ok started
    have restarts : m.2.restarts = s.playback.restarts := by
      rw [same, Playback.startAt_restarts]
      rfl
    refine reached.chained registry (restarts ▸ chain) (.begun started) ?_
    rw [restarts, last, same]
    exact Playback.startAt_timelineKey _ timeline index
  · rw [missing]
    exact chained_finish (s := s.renew) registry chain _

theorem Chained.noteRestart {s : Session} {key : String} (h : Chained r first (s, some key)) :
    (first :: (s.noteRestart key).playback.restarts).IsChain r.Leads ∧
      current first (s.noteRestart key).playback.restarts = key := by
  rw [noteRestart_restarts]
  -- the timeline at the end of the chain is the one that the session is in
  refine ⟨h.chain.append (List.isChain_singleton key) ?_, by simp [current]⟩
  intro last here key' there
  have leads := h.next key rfl
  simp only [List.getLast?_cons, Option.mem_def, Option.some.injEq] at here
  simp only [List.head?_cons, Option.mem_def, Option.some.injEq] at there
  rw [← here, ← there]
  exact leads

theorem reaction_over {s : Session} {result : Except Failure Outcome}
    (ended : s.result? = some result) (input : Input) : s.reaction input = (s, none) := by
  unfold result? at ended
  split at ended
  · next phase => cases input <;> simp [reaction, phase]
  · cases ended

theorem kept_chained : Kept (Chained r first) where
  activated {s key} h := by
    obtain ⟨chain, last⟩ := h.noteRestart
    exact chained_activate (s := s.noteRestart key) h.registry chain last 0
  endless {s key} h := chained_finish (s := s.noteRestart key) h.registry h.noteRestart.1 _
  reacted {s} input h := by
    cases result : s.result? with
    | some result =>
      rw [reaction_over result]
      exact h
    | none =>
      obtain ⟨g, hosted, named⟩ := h.hosted result
      obtain unchanged | reached := s.reaction_cases g input
      · rw [unchanged]
        exact h
      · exact reached.chained h.registry h.chain hosted named

theorem chained_opening (r : Registry) (config : Config) (options : Options)
    (streams : Nat → Random) :
    Chained r options.start (opening r config options streams) := by
  have alone (s : Session) (restarts : s.playback.restarts = []) :
      (options.start :: s.playback.restarts).IsChain r.Leads := by
    rw [restarts]
    exact List.isChain_singleton _
  unfold opening
  dsimp only
  split
  · exact chained_finish (r := r) rfl (alone _ rfl) _
  · exact chained_activate (r := r) rfl (alone _ rfl) rfl _

/-- What the host does with some inputs. -/
def reacting (s : Session) : List Input → List Deed
  | [] => []
  | input :: rest =>
    following (maxIdleRestarts + 1) (s.reaction input) ++ (s.take input).reacting rest

/-- The timelines that are activated in a session, one after the other. -/
def played (registry : Registry) (config : Config) (options : Options) (streams : Nat → Random)
    (inputs : List Input) : List String :=
  (entering registry config options streams ++
    (start registry config options streams).reacting inputs).filterMap Deed.activated?

theorem activated_answeringAll (s : Session) (lines : List Line) :
    (s.answeringAll lines).filterMap Deed.activated? =
      (s.reacting (lines.map .line ++ [.closed])).filterMap Deed.activated? := by
  induction lines generalizing s with
  | nil =>
    cases phase : s.phase <;>
      simp [answeringAll, reacting, reaction, following, phase, Deed.activated?]
  | cons line rest ih =>
    have here : (s.answering line).filterMap Deed.activated? =
        (following (maxIdleRestarts + 1) (s.reaction (.line line))).filterMap Deed.activated? := by
      cases phase : s.phase with
      | prompting => simp only [answering, phase, List.filterMap_cons, Deed.activated?]
      | _ => simp [answering, reaction, following, phase]
    rw [answeringAll, List.filterMap_append, ih, here, List.map_cons, List.cons_append, reacting,
      List.filterMap_append]
    rfl

/-- In a session in which lines appear at once these are the activations among all that the host
does. -/
theorem activated_deeds (registry : Registry) (config : Config) (options : Options)
    (lines : List Line) (streams : Nat → Random) :
    (deeds registry config options lines streams).filterMap Deed.activated? =
      played registry config options streams (lines.map .line ++ [.closed]) := by
  rw [deeds, played, List.filterMap_append, List.filterMap_append, activated_answeringAll]

/-- Every restart is followed by an activation, unless the host loses patience. -/
theorem restarts_following_cases (patience : Nat) (n : Next) :
    (following patience n).filterMap Deed.restart? =
        (following patience n).filterMap Deed.activated? ∨
      ∃ key, (following patience n).filterMap Deed.restart? =
          (following patience n).filterMap Deed.activated? ++ [key] ∧
        (follow patience n).result? = some (.error (.endless key)) := by
  induction patience generalizing n with
  | zero =>
    obtain ⟨s, _ | key⟩ := n
    · exact .inl rfl
    · exact .inr ⟨key, rfl, rfl⟩
  | succ patience ih =>
    obtain ⟨s, _ | key⟩ := n
    · exact .inl rfl
    · simp only [following, follow, List.filterMap_cons, Deed.restart?, Deed.activated?]
      obtain same | ⟨last, more, ended⟩ := ih ((s.noteRestart key).activate key 0)
      · exact .inl (congrArg _ same)
      · exact .inr ⟨last, congrArg _ more, ended⟩

theorem reacting_over {s : Session} {result : Except Failure Outcome}
    (ended : s.result? = some result) (inputs : List Input) : s.reacting inputs = [] := by
  induction inputs with
  | nil => rfl
  | cons input rest ih =>
    rw [reacting, take_eq, reaction_over ended, follow_none, ih]
    rfl

/-- When the host loses patience, nothing is activated any more. -/
theorem activated_following {patience : Nat} {n : Next} {inputs : List Input}
    (later : ((follow patience n).reacting inputs).filterMap Deed.activated? <+:
      ((follow patience n).reacting inputs).filterMap Deed.restart?) :
    (following patience n ++ (follow patience n).reacting inputs).filterMap Deed.activated? <+:
      (following patience n ++ (follow patience n).reacting inputs).filterMap Deed.restart? := by
  rw [List.filterMap_append, List.filterMap_append]
  obtain same | ⟨key, more, ended⟩ := restarts_following_cases patience n
  · rwa [same, List.prefix_append_right_inj]
  · rw [reacting_over ended, more]
    exact ⟨[key], by simp⟩

theorem activated_reacting (s : Session) (inputs : List Input) :
    (s.reacting inputs).filterMap Deed.activated? <+:
      (s.reacting inputs).filterMap Deed.restart? := by
  induction inputs generalizing s with
  | nil => exact List.prefix_rfl
  | cons input rest ih =>
    rw [reacting, take_eq]
    exact activated_following (ih _)

theorem restarts_reacting (s : Session) (inputs : List Input) :
    (s.reacting inputs).filterMap Deed.restart? = (s.turnsOf inputs).map Prod.snd := by
  induction inputs generalizing s with
  | nil => rfl
  | cons input rest ih =>
    rw [reacting, List.filterMap_append, restarts_following, ih, turnsOf, List.map_append]

/-- The timelines that are played are the first one and those of the restarts, but for one that is
refused. -/
theorem exists_played {config : Config} {options : Options}
    (registered : r.contains options.start = true) (streams : Nat → Random)
    (inputs : List Input) :
    ∃ later, played r config options streams inputs = options.start :: later ∧
      later <+: ((start r config options streams).takes inputs).playback.restarts := by
  obtain ⟨timeline, found⟩ := Option.isSome_iff_exists.1 registered
  have got : r.get options.start = .ok timeline := by
    simp only [Registry.get, Registry.find?, found]
  have entered : entering r config options streams =
      .activated options.start :: following maxIdleRestarts (opening r config options streams) := by
    simp only [entering, got]
  refine ⟨(following maxIdleRestarts (opening r config options streams) ++
    (start r config options streams).reacting inputs).filterMap Deed.activated?, ?_, ?_⟩
  · rw [played, entered]
    rfl
  · have restarts : ((start r config options streams).takes inputs).playback.restarts =
        (following maxIdleRestarts (opening r config options streams) ++
          (start r config options streams).reacting inputs).filterMap Deed.restart? := by
      rw [takes_restarts, start_restarts, entered, List.filterMap_append, restarts_reacting]
      rfl
    rw [restarts, start_eq]
    exact activated_following (activated_reacting _ inputs)

variable {config : Lint.Config} {player : Config} {options : Options} {streams : Nat → Random}

/-- A session plays a timeline that is told not to be found exactly when it comes to one by a step
that the search overlooked. Such a step leads to the timeline without a name or to the default one,
so that no timeline of another name is told wrongly: not even a restart that is refused asks for
one. -/
theorem orphan_played_iff_overlooked (entry : options.start = config.flow.entry)
    (registered : r.contains options.start = true) (inputs : List Input) :
    ((∃ name ∈ played r player options streams inputs, Lint.Orphan config r name) ↔
      ∃ name key, [name, key] <:+: played r player options streams inputs ∧
        ¬ Lint.Orphan config r name ∧ Lint.Orphan config r key ∧ r.Overlooks name key) ∧
      played r player options streams inputs <+:
        options.start :: ((start r player options streams).takes inputs).playback.restarts ∧
      (¬ Lint.Orphan config r defaultTimeline → ¬ Lint.Orphan config r "" →
        ∀ name ∈ options.start :: ((start r player options streams).takes inputs).playback.restarts,
          ¬ Lint.Orphan config r name) := by
  obtain ⟨chained, -⟩ := kept_chained.session (chained_opening r player options streams) inputs
  have found : ¬ Lint.Orphan config r options.start := by
    rw [entry] at registered ⊢
    exact Lint.not_orphan_entry registered
  -- the first timeline is found, so that somewhere the chain steps to one that is not
  have overlooked {later : List String} (chain : (options.start :: later).IsChain r.Leads)
      (orphan : ∃ name ∈ options.start :: later, Lint.Orphan config r name) :
      ∃ name key, [name, key] <:+: options.start :: later ∧
        ¬ Lint.Orphan config r name ∧ Lint.Orphan config r key ∧ r.Overlooks name key := by
    obtain ⟨name, key, link, before, after, leads⟩ := exists_link chain found orphan
    exact ⟨name, key, link, before, after, leads.overlooks (entry ▸ registered) before after⟩
  obtain ⟨later, begins, inside⟩ := exists_played registered streams inputs
  have whole := (List.prefix_cons_inj options.start).2 inside
  rw [begins]
  refine ⟨⟨overlooked <| List.IsChain.prefix chained.chain whole, ?_⟩, whole, ?_⟩
  · rintro ⟨name, key, link, -, orphan, -⟩
    exact ⟨key, link.subset (by simp), orphan⟩
  · intro noDefault noUnnamed name mem orphan
    obtain ⟨_, key, -, -, orphan, overlooks⟩ := overlooked chained.chain ⟨name, mem, orphan⟩
    obtain rfl | rfl := overlooks.key_eq
    · exact noDefault orphan
    · exact noUnnamed orphan

/-- A transition to the timeline without a name. -/
def unnamedNext : Registry :=
  (Registry.insert {} "" []).insert "start" [.timelineTransition ""]

/-- The timeline without a name is told not to be found, and played by a step that is overlooked. -/
theorem unnamed_played_by_overlooked :
    Lint.Orphan {} unnamedNext "" ∧
      played unnamedNext .default {} (fun _ => .ofSeed 0) [] = ["start", ""] ∧
      ∃ name key, [name, key] <:+: ["start", ""] ∧ ¬ Lint.Orphan {} unnamedNext name ∧
        Lint.Orphan {} unnamedNext key ∧ unnamedNext.Overlooks name key := by
  have left : Lint.unreached ["start"] unnamedNext.timelines.entries = [("", [])] := by
    rw [Lint.unreached_cons_of_some rfl]
    exact Lint.unreached_nil _
  have orphan : Lint.Orphan {} unnamedNext "" :=
    (Lint.orphan_iff rfl).2
      ⟨rfl, rfl, List.mem_map.2 ⟨("", []), left ▸ List.mem_singleton.2 rfl, rfl⟩⟩
  have two : played unnamedNext .default {} (fun _ => .ofSeed 0) [] = ["start", ""] := rfl
  have link := (@orphan_played_iff_overlooked unnamedNext {} .default {} (fun _ => .ofSeed 0)
    rfl rfl []).1.1 ⟨"", by simp [two], orphan⟩
  rw [two] at link
  exact ⟨orphan, two, link⟩

/-- The main scene without data, in a registry in which another timeline than the default one is
played first. -/
def namelessMain : Registry :=
  (Registry.insert {} "intro" [.sceneTransition ⟨mainScene, none⟩]).insert "start" []

def fromIntro : Lint.Config := { flow := { entry := "intro" } }

theorem nameless_main_played : Lint.Orphan fromIntro namelessMain "start" ∧
    namelessMain.contains "intro" = true ∧
    played namelessMain .default { start := "intro" } (fun _ => .ofSeed 0) [] =
      ["intro", "start"] ∧
    (run namelessMain .default { start := "intro" } []).result? =
      some (.ok (.ended ⟨some "start", 0⟩)) := by
  have left : Lint.unreached ["intro"] namelessMain.timelines.entries = [("start", [])] := by
    rw [Lint.unreached_cons_of_some rfl]
    exact Lint.unreached_nil _
  refine ⟨(Lint.orphan_iff rfl).2 ⟨rfl, rfl, ?_⟩, rfl, rfl, rfl⟩
  exact List.mem_map.2 ⟨("start", []), left ▸ List.mem_singleton.2 rfl, rfl⟩

end Session

end VisualNovel
