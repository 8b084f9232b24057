import Mathlib.Data.List.Infix
import VisualNovel.Proofs.Session.Resuming
import VisualNovel.Proofs.Session.Turns

namespace VisualNovel.Session

inductive Deed where
  /-- A timeline is activated. -/
  | activated (timeline : String)
  /-- An activation ends because another timeline is asked for. -/
  | restarted (next : String)
  /-- The host reads a line, or learns that there is none left. -/
  | read
deriving DecidableEq

namespace Deed

def isActivation : Deed → Bool
  | .activated _ => true
  | _ => false

def activated? : Deed → Option String
  | .activated timeline => some timeline
  | _ => none

def restart? : Deed → Option String
  | .restarted next => some next
  | _ => none

/-- Activations in a row, each of which ends in a restart, and nothing is read. -/
def idle (runs : List (String × String)) : List Deed :=
  runs.flatMap fun (timeline, next) => [.activated timeline, .restarted next]

/-- Somewhere so many activations in a row are idle. The last of them asks for the timeline. -/
def Idles (count : Nat) (key : String) (deeds : List Deed) : Prop :=
  ∃ runs, runs.length = count ∧ runs.getLast?.map Prod.snd = some key ∧ idle runs <:+: deeds

variable {count : Nat} {key timeline : String}

theorem length_idle (runs : List (String × String)) : (idle runs).length = 2 * runs.length := by
  simp [idle, Nat.mul_comm]

theorem read_notMem_idle (runs : List (String × String)) : Deed.read ∉ idle runs := by
  simp [idle]

theorem getLast?_idle_iff {runs : List (String × String)} :
    (idle runs).getLast? = some (.restarted key) ↔ runs.getLast?.map Prod.snd = some key := by
  induction runs using List.reverseRecOn with
  | nil => simp [idle]
  | append_singleton runs run ih => simp [idle]

theorem getLast?_activated_cons_iff {deeds : List Deed} :
    (Deed.activated timeline :: deeds).getLast? = some (.restarted key) ↔
      deeds.getLast? = some (.restarted key) := by
  rw [List.getLast?_cons]
  cases deeds.getLast? <;> simp

theorem Idles.mono {deeds more : List Deed} (h : Idles count key deeds) (inside : deeds <:+: more) :
    Idles count key more := by
  obtain ⟨runs, length, last, idle⟩ := h
  exact ⟨runs, length, last, idle.trans inside⟩

theorem not_idles_nil : ¬ Idles count key [] := by
  rintro ⟨runs, -, last, inside⟩
  cases runs with
  | nil => cases last
  | cons run runs => simp [idle] at inside

/-- Idle activations begin with an activation. -/
theorem idles_restarted_cons {deeds : List Deed} {next : String} :
    Idles count key (.restarted next :: deeds) ↔ Idles count key deeds := by
  refine ⟨?_, fun h => h.mono (List.suffix_cons _ _).isInfix⟩
  rintro ⟨runs, length, last, inside⟩
  refine ⟨runs, length, last, (List.infix_cons_iff.1 inside).resolve_left ?_⟩
  intro start
  cases runs with
  | nil => cases last
  | cons run runs => simp [idle] at start

theorem eq_nil_of_prefix_read {l after : List Deed} (silent : Deed.read ∉ l)
    (start : l <+: .read :: after) : l = [] := by
  cases l with
  | nil => rfl
  | cons deed l =>
    obtain ⟨rfl, -⟩ := List.cons_prefix_cons.1 start
    exact (silent List.mem_cons_self).elim

/-- Activations between which something is read are not idle. -/
theorem idles_append_read {before after : List Deed} :
    Idles count key (before ++ .read :: after) ↔
      Idles count key before ∨ Idles count key after := by
  have behind : after <:+ before ++ .read :: after :=
    (List.suffix_cons _ _).trans (List.suffix_append _ _)
  constructor
  · rintro ⟨runs, length, last, inside⟩
    have silent := read_notMem_idle runs
    -- the read is not one of the idle deeds, so that they end before it or begin behind it
    obtain early | late | ⟨l, m, split, final, start⟩ := List.infix_append_iff.1 inside
    · exact .inl ⟨runs, length, last, early⟩
    · refine .inr ⟨runs, length, last, (List.infix_cons_iff.1 late).resolve_left ?_⟩
      intro start
      have empty := eq_nil_of_prefix_read silent start
      exact not_idles_nil ⟨runs, length, last, empty ▸ List.infix_rfl⟩
    · obtain rfl : m = [] :=
        eq_nil_of_prefix_read (fun mem => silent (split ▸ List.mem_append_right l mem)) start
      rw [List.append_nil] at split
      exact .inl ⟨runs, length, last, split ▸ final.isInfix⟩
  · rintro (early | late)
    · exact early.mono (List.prefix_append _ _).isInfix
    · exact late.mono behind.isInfix

theorem idles_read_cons {after : List Deed} :
    Idles count key (.read :: after) ↔ Idles count key after := by
  have alone : Idles count key ([] ++ .read :: after) ↔
      Idles count key [] ∨ Idles count key after := idles_append_read
  simpa only [List.nil_append, not_idles_nil, false_or] using alone

end Deed

/-- What the host does as long as one timeline leads to another. -/
def following : Nat → Next → List Deed
  | _, (_, none) => []
  | 0, (_, some key) => [.restarted key]
  | patience + 1, (s, some key) =>
    .restarted key :: .activated key :: following patience ((s.noteRestart key).activate key 0)

/-- What the host does with a line that is there to be read. -/
def answering (s : Session) (line : Line) : List Deed :=
  match s.phase with
  | .prompting => .read :: following (maxIdleRestarts + 1) (s.reaction (.line line))
  | _ => []

/-- What the host does until there are no more lines. -/
def answeringAll (s : Session) : List Line → List Deed
  | [] =>
    match s.phase with
    | .prompting => [.read]
    | _ => []
  | line :: rest => s.answering line ++ (s.feed line).answeringAll rest

/-- What the host does before the first line, unless it has nothing to begin with. -/
def entering (registry : Registry) (config : Config) (options : Options)
    (streams : Nat → Random) : List Deed :=
  match registry.get options.start with
  | .error _ => []
  | .ok _ => .activated options.start ::
    following maxIdleRestarts (opening registry config options streams)

/-- All that the host does in a session in which lines appear at once. -/
def deeds (registry : Registry) (config : Config) (options : Options) (lines : List Line)
    (streams : Nat → Random) : List Deed :=
  entering registry config options streams ++
    (start registry config options streams).answeringAll lines

theorem read_notMem_following (patience : Nat) (n : Next) :
    Deed.read ∉ following patience n := by
  induction patience generalizing n with
  | zero => obtain ⟨s, _ | key⟩ := n <;> simp [following]
  | succ patience ih => obtain ⟨s, _ | key⟩ := n <;> simp [following, ih]

theorem activations_following (patience : Nat) (n : Next) :
    (following patience n).countP Deed.isActivation ≤ patience := by
  induction patience generalizing n with
  | zero => obtain ⟨s, _ | key⟩ := n <;> simp [following, Deed.isActivation]
  | succ patience ih =>
    obtain ⟨s, _ | key⟩ := n <;> simp [following, List.countP_cons, Deed.isActivation, ih]

theorem read_notMem_entering (registry : Registry) (config : Config) (options : Options)
    (streams : Nat → Random) : Deed.read ∉ entering registry config options streams := by
  unfold entering
  split <;> simp [read_notMem_following]

theorem activations_entering (registry : Registry) (config : Config) (options : Options)
    (streams : Nat → Random) :
    (entering registry config options streams).countP Deed.isActivation ≤ maxIdleRestarts + 1 := by
  unfold entering
  split
  · simp
  · simpa [List.countP_cons, Deed.isActivation] using activations_following _ _

theorem reads_answeringAll (s : Session) (lines : List Line) :
    (s.answeringAll lines).count .read ≤ lines.length + 1 := by
  induction lines generalizing s with
  | nil =>
    unfold answeringAll
    split <;> simp
  | cons line rest ih =>
    have once : (s.answering line).count .read ≤ 1 := by
      unfold answering
      split <;> simp [List.count_eq_zero_of_not_mem (read_notMem_following _ _)]
    have later := ih (s.feed line)
    simp only [answeringAll, List.count_append, List.length_cons]
    omega

theorem activations_answeringAll (s : Session) (lines : List Line) :
    (s.answeringAll lines).countP Deed.isActivation ≤ (maxIdleRestarts + 1) * lines.length := by
  induction lines generalizing s with
  | nil =>
    unfold answeringAll
    split <;> simp [Deed.isActivation]
  | cons line rest ih =>
    have here : (s.answering line).countP Deed.isActivation ≤ maxIdleRestarts + 1 := by
      unfold answering
      split
      · simpa [Deed.isActivation] using activations_following _ (s.reaction (.line line))
      · simp
    have later := ih (s.feed line)
    simp only [answeringAll, List.countP_append, List.length_cons, Nat.mul_succ]
    omega

def Calm (s : Session) : Prop := ∀ key, s.result? ≠ some (.error (.endless key))

variable {s : Session} {g : Progress} {key : String}

theorem calm_of_prompting (prompting : s.phase = .prompting) : s.Calm := by
  simp [Calm, result?, prompting]

theorem calm_finish (s : Session) {result : Except Failure Outcome}
    (other : ∀ key, result ≠ .error (.endless key)) : (s.finish result).Calm := by
  simpa [Calm] using other

namespace Calm

theorem playing (h : s.Calm) (playback : Playback) : ({ s with playback } : Session).Calm := h

theorem printLines (h : s.Calm) (lines : List String) : (s.printLines lines).Calm := h

theorem renew (h : s.Calm) : s.renew.Calm := h

theorem noteRestart (h : s.Calm) (key : String) : (s.noteRestart key).Calm := h

theorem present (h : s.Calm) (g : Progress) : (s.present g).1.Calm := by
  intro key failed
  exact h key ((present_kept s g).2.2 _ failed)

theorem proceed (h : s.Calm) (g : Progress) : (s.proceed g).1.Calm := by
  unfold Session.proceed
  split
  · split
    · simp [Calm, result?]
    · split
      · exact (h.playing _).present _
      · exact calm_finish s (by simp)
  · exact h.present g

theorem pressButton (h : s.Calm) (id : Nat) : (s.pressButton id).1.Calm := by
  unfold Session.pressButton
  dsimp only
  split
  · split
    · exact ((h.playing _).printLines _).proceed _
    · exact (h.playing _).proceed _
  · exact (h.playing _).proceed _

theorem obey (h : s.Calm) (reply : Reply) : (s.obey reply).1.Calm := by
  cases reply with
  | quit => exact calm_finish _ (by simp)
  | advance => exact (h.playing _).proceed _
  | press id => exact h.pressButton id
  | confirm =>
    simp only [Session.obey]
    split
    · exact h.pressButton _
    · exact (h.printLines _).proceed _
  | unknown text => exact (h.printLines _).proceed _

theorem activate (h : s.Calm) (key : String) (index : Nat) : (s.activate key index).1.Calm := by
  unfold Session.activate
  dsimp only
  split
  · exact (h.renew.playing _).proceed _
  · exact calm_finish _ (by simp)

end Calm

theorem calm_reaction_line (prompting : s.phase = .prompting) (line : Line) :
    (s.reaction (.line line)).1.Calm := by
  simp only [reaction, prompting]
  cases line with
  | text content => exact (calm_of_prompting prompting).obey _
  | garbled => exact calm_finish s (by simp)

theorem calm_opening (registry : Registry) (config : Config) (options : Options)
    (streams : Nat → Random) : (opening registry config options streams).1.Calm := by
  have blank (s : Session) (phase : s.phase = .prompting) : s.Calm := calm_of_prompting phase
  unfold opening
  dsimp only
  split
  · exact calm_finish _ (by simp)
  · exact (blank _ rfl).activate _ _

theorem length_following_le (patience : Nat) (n : Next) :
    (following patience n).length ≤ 2 * patience + 1 := by
  induction patience generalizing n with
  | zero => obtain ⟨s, _ | key⟩ := n <;> simp [following]
  | succ patience ih =>
    obtain ⟨s, _ | next⟩ := n
    · simp [following]
    · have later := ih ((s.noteRestart next).activate next 0)
      simp only [following, List.length_cons]
      omega

theorem follow_endless_iff_length {n : Next} (calm : n.1.Calm) (patience : Nat) :
    (follow patience n).result? = some (.error (.endless key)) ↔
      (following patience n).length = 2 * patience + 1 ∧
        (following patience n).getLast? = some (.restarted key) := by
  induction patience generalizing n with
  | zero =>
    obtain ⟨s, _ | next⟩ := n
    · simpa [follow, following] using calm key
    · simp [follow, following]
  | succ patience ih =>
    obtain ⟨s, _ | next⟩ := n
    · simpa [follow, following] using calm key
    · have later := ih ((calm.noteRestart next).activate next 0)
      rw [follow, later]
      simp only [following, List.length_cons, List.getLast?_cons_cons,
        Deed.getLast?_activated_cons_iff]
      exact and_congr_left' (by omega)

/-- When all patience is used up, nothing but idle activations was there. -/
theorem exists_idle_of_length {patience : Nat} {n : Next}
    (length : (following patience n).length = 2 * patience + 1) (timeline : String) :
    ∃ runs, Deed.activated timeline :: following patience n = Deed.idle runs := by
  induction patience generalizing n timeline with
  | zero =>
    obtain ⟨s, _ | next⟩ := n
    · cases length
    · exact ⟨[(timeline, next)], rfl⟩
  | succ patience ih =>
    obtain ⟨s, _ | next⟩ := n
    · cases length
    · simp only [following, List.length_cons] at length
      obtain ⟨runs, idle⟩ := ih (n := (s.noteRestart next).activate next 0) (by omega) next
      exact ⟨(timeline, next) :: runs, by rw [following, idle]; rfl⟩

/-- Patience is lost exactly when so many activations in a row are idle. -/
theorem follow_endless_iff_idles {n : Next} (calm : n.1.Calm) (patience : Nat)
    (timeline : String) :
    (follow patience n).result? = some (.error (.endless key)) ↔
      Deed.Idles (patience + 1) key (.activated timeline :: following patience n) := by
  rw [follow_endless_iff_length calm]
  constructor
  · rintro ⟨length, last⟩
    obtain ⟨runs, idle⟩ := exists_idle_of_length length timeline
    refine ⟨runs, ?_, ?_, idle ▸ List.infix_rfl⟩
    · have same := congrArg List.length idle
      rw [Deed.length_idle, List.length_cons] at same
      omega
    · rw [← Deed.getLast?_idle_iff, ← idle]
      exact Deed.getLast?_activated_cons_iff.2 last
  · rintro ⟨runs, length, last, inside⟩
    -- there is room for no more than the idle activations
    have bound := length_following_le patience n
    have same : Deed.idle runs = .activated timeline :: following patience n :=
      inside.eq_of_length_le (by rw [Deed.length_idle, List.length_cons]; omega)
    constructor
    · have room := congrArg List.length same
      rw [Deed.length_idle, List.length_cons] at room
      omega
    · rw [← Deed.getLast?_activated_cons_iff, ← same]
      exact Deed.getLast?_idle_iff.2 last

/-- With a line, patience is lost exactly when the activations that come of it are idle. -/
theorem feed_endless_iff (prompting : s.phase = .prompting) (line : Line) :
    (s.feed line).result? = some (.error (.endless key)) ↔
      Deed.Idles 65 key (following (maxIdleRestarts + 1) (s.reaction (.line line))) := by
  have calm := calm_reaction_line prompting line
  have fed : s.feed line = follow (maxIdleRestarts + 1) (s.reaction (.line line)) :=
    s.take_eq (.line line)
  rw [fed]
  generalize s.reaction (.line line) = n at calm ⊢
  obtain ⟨t, _ | next⟩ := n
  · simpa [follow, following, Deed.not_idles_nil] using calm key
  · rw [follow, following, Deed.idles_restarted_cons]
    exact follow_endless_iff_idles ((calm.noteRestart next).activate next 0) maxIdleRestarts next

theorem answeringAll_cases (s : Session) (lines : List Line) :
    s.answeringAll lines = [] ∨ ∃ later, s.answeringAll lines = .read :: later := by
  cases phase : s.phase with
  | prompting =>
    cases lines with
    | nil => exact .inr ⟨[], by simp [answeringAll, phase]⟩
    | cons line rest => exact .inr ⟨_, by simp only [answeringAll, answering, phase]; rfl⟩
  | _ =>
    refine .inl ?_
    induction lines with
    | nil => simp [answeringAll, phase]
    | cons line rest ih => simp [answeringAll, answering, feed, phase, ih]

theorem idles_append_answeringAll {count : Nat} (before : List Deed) (s : Session)
    (lines : List Line) :
    Deed.Idles count key (before ++ s.answeringAll lines) ↔
      Deed.Idles count key before ∨ Deed.Idles count key (s.answeringAll lines) := by
  obtain empty | ⟨later, begins⟩ := s.answeringAll_cases lines
  · simp [empty, Deed.not_idles_nil]
  · rw [begins, Deed.idles_append_read, Deed.idles_read_cons]

theorem answeringAll_endless_iff (s : Session) (lines : List Line) :
    (lines.foldl feed s).endInput.result? = some (.error (.endless key)) ↔
      s.result? = some (.error (.endless key)) ∨ Deed.Idles 65 key (s.answeringAll lines) := by
  induction lines generalizing s with
  | nil =>
    cases phase : s.phase with
    | prompting =>
      have calm := calm_of_prompting phase key
      have quit : s.quit.Calm := calm_finish _ (by simp)
      simp [endInput, answeringAll, phase, quit key, calm, Deed.idles_read_cons,
        Deed.not_idles_nil]
    | _ =>
      simp [endInput, answeringAll, phase, Deed.not_idles_nil]
  | cons line rest ih =>
    rw [List.foldl_cons, ih, answeringAll, idles_append_answeringAll, ← or_assoc]
    refine or_congr_left ?_
    cases phase : s.phase with
    | prompting =>
      have calm := calm_of_prompting phase key
      rw [feed_endless_iff phase]
      simp [answering, phase, calm, Deed.idles_read_cons]
    | _ =>
      simp [feed, answering, phase, Deed.not_idles_nil]

theorem start_endless_iff {registry : Registry} {config : Config} {options : Options}
    {streams : Nat → Random} :
    (start registry config options streams).result? = some (.error (.endless key)) ↔
      Deed.Idles 65 key (entering registry config options streams) := by
  have calm := calm_opening registry config options streams
  unfold entering
  rw [start_eq]
  cases found : registry.get options.start with
  | error e => simp [opening, found, follow, Deed.not_idles_nil]
  | ok timeline => exact follow_endless_iff_idles calm maxIdleRestarts options.start

theorem restarts_following (patience : Nat) (n : Next) :
    (following patience n).filterMap Deed.restart? = (turns patience n).map Prod.snd := by
  induction patience generalizing n with
  | zero => obtain ⟨s, _ | key⟩ := n <;> simp [following, turns, Deed.restart?]
  | succ patience ih =>
    obtain ⟨s, _ | key⟩ := n <;> simp [following, turns, List.filterMap_cons, Deed.restart?, ih]

theorem feed_restarts (s : Session) (line : Line) : (s.feed line).playback.restarts =
    s.playback.restarts ++ (s.answering line).filterMap Deed.restart? := by
  have fed : s.feed line = follow (maxIdleRestarts + 1) (s.reaction (.line line)) :=
    s.take_eq (.line line)
  cases phase : s.phase with
  | prompting =>
    rw [fed, follow_restarts, reaction_restarts, ← restarts_following]
    simp [answering, phase, List.filterMap_cons, Deed.restart?]
  | _ => simp [feed, answering, phase]

theorem endInput_restarts (s : Session) : s.endInput.playback.restarts = s.playback.restarts := by
  unfold endInput
  split <;> rfl

theorem feedAll_restarts (s : Session) (lines : List Line) :
    (lines.foldl feed s).endInput.playback.restarts =
      s.playback.restarts ++ (s.answeringAll lines).filterMap Deed.restart? := by
  induction lines generalizing s with
  | nil =>
    rw [List.foldl_nil, endInput_restarts, answeringAll]
    split <;> simp [Deed.restart?]
  | cons line rest ih =>
    rw [List.foldl_cons, ih, feed_restarts, answeringAll, List.filterMap_append,
      List.append_assoc]

theorem start_restarts (registry : Registry) (config : Config) (options : Options)
    (streams : Nat → Random) : (start registry config options streams).playback.restarts =
      (entering registry config options streams).filterMap Deed.restart? := by
  unfold entering
  rw [start_eq, follow_restarts, opening_restarts, ← restarts_following]
  cases found : registry.get options.start with
  | error e => simp [opening, found, following]
  | ok timeline => simp [List.filterMap_cons, Deed.restart?]

/-- Where lines appear at once, no time goes by between them. -/
theorem Awaits.play_eq {r : Registry} (h : s.Awaits r) (lines : List Line) :
    s.play lines = (lines.foldl Session.feed s).endInput := by
  have fed : ∀ s : Session, s.Awaits r →
      lines.foldl (fun s line => (s.feed line).watch) s = lines.foldl Session.feed s := by
    induction lines with
    | nil => exact fun s h => rfl
    | cons line rest ih =>
      intro s h
      rw [List.foldl_cons, List.foldl_cons, (h.feed line).watch]
      exact ih _ (h.feed line)
  rw [Session.play, h.watch, fed s h]

theorem Awaits.play_over {r : Registry} (h : s.Awaits r) (lines : List Line) :
    (s.play lines).result?.isSome = true := by
  have fed (s : Session) (h : s.Awaits r) : (lines.foldl Session.feed s).Awaits r := by
    induction lines generalizing s with
    | nil => exact h
    | cons line rest ih => exact ih _ (h.feed line)
  rw [h.play_eq]
  obtain ⟨prompting, -⟩ | ⟨result, ended, -⟩ := (fed s h).phase
  · simp [Session.endInput, prompting, quit]
  · simp [Session.endInput, ended, result?]

variable {registry : Registry} {config : Config} {options : Options} {streams : Nat → Random}

/-- Whatever is typed, a session in which lines appear at once comes to an end. It reads no more
than its lines and their end, and between two reads it begins a bounded number of timelines. It
fails for restarts exactly when 65 activations in a row are idle. -/
theorem session_ends (still : options.animate = false) (lines : List Line) :
    (run registry config options lines streams).result?.isSome = true ∧
      (deeds registry config options lines streams).count .read ≤ lines.length + 1 ∧
      (deeds registry config options lines streams).countP Deed.isActivation ≤
        66 * (lines.length + 2) ∧
      (∀ key, (run registry config options lines streams).result? = some (.error (.endless key)) ↔
        Deed.Idles 65 key (deeds registry config options lines streams)) ∧
      (deeds registry config options lines streams).filterMap Deed.restart? =
        (run registry config options lines streams).playback.restarts := by
  have awaits : (start registry config options streams).Awaits registry := awaits_start still
  have played : run registry config options lines streams = _ := awaits.play_eq lines
  refine ⟨awaits.play_over lines, ?_, ?_, ?_, ?_⟩
  · have none : (entering registry config options streams).count .read = 0 :=
      List.count_eq_zero_of_not_mem (read_notMem_entering _ _ _ _)
    have later := (start registry config options streams).reads_answeringAll lines
    rw [deeds, List.count_append, none]
    omega
  · have first := activations_entering registry config options streams
    have later := (start registry config options streams).activations_answeringAll lines
    simp only [maxIdleRestarts] at first later
    rw [deeds, List.countP_append]
    omega
  · intro key
    rw [played, answeringAll_endless_iff, start_endless_iff, deeds, idles_append_answeringAll]
  · rw [played, feedAll_restarts, start_restarts, deeds, List.filterMap_append]

/-- A gate into a timeline that leads to itself. -/
def maze : Registry :=
  (Registry.insert {} "door" [.choice [⟨"In", "maze"⟩]]).insert "maze" [.timelineTransition "maze"]

theorem maze_ends :
    (run maze .default { start := "door", animate := false } [.text "1", .text "1"]).result? =
        some (.error (.endless "maze")) ∧
      (deeds maze .default { start := "door", animate := false } [.text "1", .text "1"]
        (fun _ => .ofSeed 0)).countP Deed.isActivation = 66 ∧
      Deed.Idles 65 "maze" (deeds maze .default { start := "door", animate := false }
        [.text "1", .text "1"] (fun _ => .ofSeed 0)) := by
  obtain ⟨-, -, -, endless, -⟩ := @session_ends maze .default
    { start := "door", animate := false } (fun _ => .ofSeed 0) rfl [.text "1", .text "1"]
  have failed : (run maze .default { start := "door", animate := false }
      [.text "1", .text "1"]).result? = some (.error (.endless "maze")) := rfl
  exact ⟨failed, rfl, (endless "maze").1 failed⟩

end VisualNovel.Session
