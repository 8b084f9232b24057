import VisualNovel.Proofs.Session.Revealing

namespace VisualNovel

namespace Session

/-- Let time go by as the clock tells, until no line is being shown. The readings that are left
are told. -/
def watchBy (s : Session) : List Duration → Session × List Duration
  | [] => (s, [])
  | time :: clock =>
    match s.phase with
    | .revealing _ => (s.wake time).watchBy clock
    | _ => (s, time :: clock)

/-- Take all lines that are left, each when it is asked for. While a line is being shown the clock is
read. -/
def attend (s : Session) (clock : List Duration) : List Line → Session
  | [] => (s.watchBy clock).1.endInput
  | line :: rest => ((s.watchBy clock).1.feed line).attend (s.watchBy clock).2 rest

/-- No line is half shown, be it that the clock was not read again or that it could not be. -/
structure Complete (s : Session) : Prop where
  shown : ∀ printed, s.phase ≠ .revealing printed
  timely : s.result? ≠ some (.error .clock)

/-- A session whose line is never complete. -/
inductive Stuck : Session → List Duration → Prop where
  | unread {s : Session} {printed : Nat} (phase : s.phase = .revealing printed) : Stuck s []
  | overflown {s : Session} {clock : List Duration} (phase : s.phase = .over (.error .clock)) :
      Stuck s clock

variable {s : Session} {clock : List Duration}

namespace Stuck

theorem not_complete (stuck : Stuck s clock) : ¬ s.Complete := by
  rintro ⟨shown, timely⟩
  cases stuck with
  | unread phase => exact shown _ phase
  | overflown phase => exact timely (by rw [result?, phase])

theorem feed (stuck : Stuck s clock) (line : Line) : s.feed line = s := by
  unfold Session.feed
  cases stuck with
  | unread phase | overflown phase => simp only [phase]

theorem endInput (stuck : Stuck s clock) : s.endInput = s := by
  unfold Session.endInput
  cases stuck with
  | unread phase | overflown phase => simp only [phase]

theorem watchBy (stuck : Stuck s clock) : s.watchBy clock = (s, clock) := by
  cases stuck with
  | unread phase => rfl
  | overflown phase =>
    cases clock with
    | nil => rfl
    | cons time rest => simp only [Session.watchBy, phase]

theorem attend (stuck : Stuck s clock) (lines : List Line) : s.attend clock lines = s := by
  induction lines with
  | nil => rw [Session.attend, stuck.watchBy, stuck.endInput]
  | cons line rest ih => rw [Session.attend, stuck.watchBy, stuck.feed, ih]

end Stuck

theorem attend_stuck (stuck : Stuck (s.watchBy clock).1 (s.watchBy clock).2) (lines : List Line) :
    s.attend clock lines = (s.watchBy clock).1 := by
  cases lines with
  | nil => rw [attend, stuck.endInput]
  | cons line rest => rw [attend, stuck.feed, stuck.attend]

namespace Complete

theorem congr {t : Session} (complete : s.Complete) (phase : t.phase = s.phase) : t.Complete := by
  refine ⟨?_, ?_⟩
  · rw [phase]
    exact complete.shown
  · rw [result?, phase]
    exact complete.timely

theorem watchBy (complete : s.Complete) (clock : List Duration) : s.watchBy clock = (s, clock) := by
  cases clock with
  | nil => rfl
  | cons time rest =>
    unfold Session.watchBy
    split
    · next printed revealing => exact (complete.shown printed revealing).elim
    · rfl

theorem watchFor (complete : s.Complete) (count : Nat) : s.watchFor count = s := by
  cases count with
  | zero => rfl
  | succ count =>
    unfold Session.watchFor
    split
    · next printed revealing => exact (complete.shown printed revealing).elim
    · rfl

theorem finish (s : Session) {result : Except Failure Outcome} (timely : result ≠ .error .clock) :
    (s.finish result).Complete := ⟨nofun, fun same => timely (Option.some.inj same)⟩

theorem of_result {outcome : Outcome} (ended : s.result? = some (.ok outcome)) : s.Complete := by
  refine ⟨fun printed revealing => ?_, by simp [ended]⟩
  simp [result?, revealing] at ended

theorem present (complete : s.Complete) (g : Progress) : (s.present g).1.Complete := by
  refine ⟨?_, fun failed => complete.timely ((present_kept s g).2.2 _ failed)⟩
  intro printed
  cases g with
  | navigate n =>
    simp only [Session.present, route]
    split
    · split <;> exact complete.shown printed
    · rintro ⟨⟩
    · rintro ⟨⟩
  | _ => rintro ⟨⟩

theorem endInput (complete : s.Complete) : s.endInput.Complete := by
  unfold Session.endInput
  split
  · exact finish _ (by simp)
  · exact complete

end Complete

theorem present_complete (s : Session) : (s.present .waitInput).1.Complete :=
  ⟨nofun, nofun⟩

/-- However the time is cut, a line that is complete in the end is printed and known. -/
theorem Revealing.watchBy {r : Reveal} (revealing : s.Revealing r) (clock : List Duration) :
    Stuck (s.watchBy clock).1 (s.watchBy clock).2 ∨
      (s.watchBy clock).1 = ((s.revealed r).present .waitInput).1 := by
  induction clock generalizing s r with
  | nil => exact .inl (.unread revealing.phase)
  | cons time clock ih =>
    have woken : s.watchBy (time :: clock) = (s.wake time).watchBy clock := by
      simp only [Session.watchBy, revealing.phase]
    rw [woken]
    cases ticked : r.tick time with
    | error e =>
      have stuck : Stuck (s.wake time) clock := .overflown (revealing.wake_overflow ticked)
      rw [stuck.watchBy]
      exact .inl stuck
    | ok m =>
      obtain ⟨more, later⟩ := m
      cases complete : later.isComplete with
      | false =>
        obtain ⟨reveals, same⟩ := revealing.wake_showing ticked complete
        rw [← same]
        exact ih reveals
      | true =>
        rw [revealing.wake_complete ticked complete, (present_complete _).watchBy]
        exact .inr rfl

end Session

theorem Config.typingInterval_eq_zero {c : Config} (short : c.typingInterval.nanos < 1000000) :
    c.typingInterval.nanos = 0 := by
  rw [typingInterval, Duration.ofMillis, Duration.nanos_saturating] at short ⊢
  have long : 1000000 ≤ Duration.longest.nanos := by decide
  omega

/-- A line that is not complete, and of which all characters so far were shown in time. -/
structure Reveal.Steady (r : Reveal) : Prop where
  hidden : r.isComplete = false
  fits : r.interval.FitsLine r.text
  elapsed : r.elapsed.nanos = r.interval.nanos * r.shown

/-- Each interval shows one more character, or all when they take no time. -/
theorem Reveal.Steady.tick {r : Reveal} (steady : r.Steady) {time : Duration}
    (interval : r.interval.nanos = 0 ∨ time = r.interval) :
    ∃ later, r.tick time = .ok (true, later) ∧ r.shown < later.shown ∧
      later.text = r.text ∧ later.interval = r.interval ∧
      (later.isComplete = false → later.Steady) := by
  have less : r.shown < r.charCount := Nat.lt_of_not_le (of_decide_eq_false steady.hidden)
  by_cases instant : r.interval.nanos = 0
  · have unspent : r.elapsed.nanos = 0 := by rw [steady.elapsed, instant, Nat.zero_mul]
    have added : r.elapsed.add? time = some time := by
      simp [Duration.add?, Duration.ofNanos?, unspent, time.inRange]
    have due : r.due time = r.charCount := if_pos instant
    have more : r.shown < r.due time := due ▸ less
    refine ⟨_, tick_more steady.hidden added more, more, rfl, rfl, ?_⟩
    intro hidden
    exact absurd (Nat.le_of_eq due.symm) (of_decide_eq_false hidden)
  · -- the elapsed time is a multiple of the interval, and stays within the time of the whole line
    obtain rfl : time = r.interval := interval.resolve_left instant
    have inside : r.charCount < twoTo 32 := steady.fits.length_lt instant
    have spent : r.elapsed.nanos + r.interval.nanos = r.interval.nanos * (r.shown + 1) := by
      rw [steady.elapsed, Nat.mul_succ]
    have inRange : r.elapsed.nanos + r.interval.nanos < twoTo 64 * nanosPerSecond := by
      have limit : r.interval.nanos * r.charCount < twoTo 64 * nanosPerSecond := by
        rw [charCount, ← steady.fits]
        exact (r.interval.times _).inRange
      rw [spent]
      exact Nat.lt_of_le_of_lt (Nat.mul_le_mul_left _ less) limit
    let elapsed : Duration := ⟨r.elapsed.nanos + r.interval.nanos, inRange⟩
    have whole : elapsed.nanos = r.interval.nanos * (r.shown + 1) := spent
    have added : r.elapsed.add? r.interval = some elapsed := dif_pos inRange
    have due : r.due elapsed = r.shown + 1 := by
      have counted : r.shown + 1 < countBound :=
        Nat.lt_of_le_of_lt less (Nat.lt_trans inside (by decide))
      rw [Reveal.due, if_neg instant, whole,
        Nat.mul_div_cancel_left _ (Nat.pos_of_ne_zero instant), Nat.mod_eq_of_lt counted]
      exact Nat.min_eq_left less
    have more : r.shown < r.due elapsed := due ▸ Nat.lt_succ_self _
    refine ⟨_, tick_more steady.hidden added more, more, rfl, rfl, ?_⟩
    intro hidden
    refine ⟨hidden, steady.fits, ?_⟩
    rw [due]
    exact whole

namespace Session

variable {s : Session} {r : Reveal}

theorem wakeInterval_cases (s : Session) :
    s.config.typingInterval.nanos = 0 ∨ s.wakeInterval = s.config.typingInterval := by
  unfold wakeInterval
  dsimp only
  split
  · next short => exact .inl (Config.typingInterval_eq_zero short)
  · exact .inr rfl

/-- With a steady clock the time of a line is enough. -/
theorem Revealing.watchFor (revealing : s.Revealing r) (steady : r.Steady)
    (interval : r.interval = s.config.typingInterval) {count : Nat}
    (enough : r.charCount ≤ r.shown + count) :
    s.watchFor count = ((s.revealed r).present .waitInput).1 ∧
      ∃ clock, ∀ rest, s.watchBy (clock ++ rest) = (s.watchFor count, rest) := by
  induction count generalizing s r with
  | zero =>
    have complete : r.isComplete = true := decide_eq_true enough
    rw [steady.hidden] at complete
    cases complete
  | succ count ih =>
    have watched : s.watchFor (count + 1) = (s.wake s.wakeInterval).watchFor count := by
      simp only [Session.watchFor, revealing.phase]
    have read (clock : List Duration) :
        s.watchBy (s.wakeInterval :: clock) = (s.wake s.wakeInterval).watchBy clock := by
      simp only [Session.watchBy, revealing.phase]
    obtain ⟨later, ticked, more, text, same, steady⟩ :=
      steady.tick (interval ▸ s.wakeInterval_cases)
    rw [watched]
    cases complete : later.isComplete with
    | false =>
      obtain ⟨reveals, revealed⟩ := revealing.wake_showing ticked complete
      have config : ((s.wake s.wakeInterval).revealed later).config = (s.revealed r).config := by
        rw [revealed]
      have count : later.charCount = r.charCount := by rw [Reveal.charCount, text]; rfl
      obtain ⟨shown, clock, reads⟩ := ih reveals (steady complete)
        (same.trans (interval.trans (congrArg _ config.symm))) (by omega)
      rw [← revealed]
      exact ⟨shown, s.wakeInterval :: clock, fun rest => (read _).trans (reads rest)⟩
    | true =>
      have woken := revealing.wake_complete ticked complete
      have asks : (s.wake s.wakeInterval).Complete := woken ▸ present_complete _
      rw [asks.watchFor]
      exact ⟨woken, [s.wakeInterval], fun rest => (read rest).trans (asks.watchBy rest)⟩

end Session

end VisualNovel
