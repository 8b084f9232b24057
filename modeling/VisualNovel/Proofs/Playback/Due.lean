import VisualNovel.Proofs.Playback.Speech

namespace VisualNovel

/-- The nanoseconds of some spans together. -/
def Duration.total : List Duration → Nat
  | [] => 0
  | time :: rest => time.nanos + total rest

namespace Duration

@[simp] theorem total_nil : total [] = 0 := rfl

@[simp] theorem total_append (a b : List Duration) : total (a ++ b) = total a + total b := by
  induction a with
  | nil => simp
  | cons time rest ih => simp [total, ih, Nat.add_assoc]

@[simp] theorem total_singleton (time : Duration) : total [time] = time.nanos := rfl

theorem add?_of_lt {a b : Duration} (h : a.nanos + b.nanos < twoTo 64 * nanosPerSecond) :
    a.add? b = some ⟨a.nanos + b.nanos, h⟩ := dif_pos h

theorem nanos_of_add? {a b c : Duration} (h : a.add? b = some c) :
    c.nanos = a.nanos + b.nanos := by
  unfold add? ofNanos? at h
  split at h
  · cases h
    rfl
  · cases h

end Duration

open Duration (total)

namespace Reveal

/-- The numbers of bytes up to the end of each character, behind the bytes before the first one. -/
def endsFrom (start : Nat) : List Char → List Nat
  | [] => []
  | c :: rest => (start + c.utf8Size) :: endsFrom (start + c.utf8Size) rest

/-- The bytes that are shown, looked up among the ends of the characters. -/
def shownBytes? (r : Reveal) : Option Nat :=
  match r.shown with
  | 0 => some 0
  | count + 1 => (endsFrom 0 r.text.toList)[count]?

/-- The text up to a byte. There is none behind the end, and none that ends inside a character. -/
def textUpTo? (text : String) (bytes : Nat) : Option String :=
  if bytes ≤ text.utf8ByteSize then String.fromUTF8? (text.toByteArray.extract 0 bytes) else none

theorem endsFrom_getElem? (start : Nat) {chars : List Char} {count : Nat}
    (lt : count < chars.length) : (endsFrom start chars)[count]? =
      some (start + (String.ofList (chars.take (count + 1))).utf8ByteSize) := by
  induction chars generalizing start count with
  | nil => cases lt
  | cons c rest ih =>
    have first (cs : List Char) : (String.ofList (c :: cs)).utf8ByteSize =
        c.utf8Size + (String.ofList cs).utf8ByteSize := by
      rw [← List.singleton_append, String.ofList_append, String.utf8ByteSize_append]
      congr 1
      simp
    cases count with
    | zero => simp [endsFrom]
    | succ count =>
      have next := ih (start + c.utf8Size) (Nat.lt_of_succ_lt_succ lt)
      simp only [endsFrom, List.getElem?_cons_succ, next, List.take_succ_cons, first,
        Nat.add_assoc]

theorem shownBytes?_eq {r : Reveal} (le : r.shown ≤ r.charCount) :
    r.shownBytes? = some r.visible.utf8ByteSize := by
  unfold shownBytes?
  split
  · next none => simp [visible, none]
  · next count shown =>
    have lt : count < r.text.toList.length := by
      rw [String.length_toList]
      exact Nat.lt_of_succ_le (shown ▸ le)
    rw [endsFrom_getElem? 0 lt, visible, shown, Nat.zero_add]

theorem textUpTo?_append (a b : String) : textUpTo? (a ++ b) a.utf8ByteSize = some a := by
  have within : a.utf8ByteSize ≤ (a ++ b).utf8ByteSize := by
    rw [String.utf8ByteSize_append]
    exact Nat.le_add_right _ _
  have bytes : (a ++ b).toByteArray.extract 0 a.utf8ByteSize = a.toByteArray := by
    rw [String.toByteArray_append]
    exact ByteArray.extract_append_eq_left rfl
  rw [textUpTo?, if_pos within, bytes, String.fromUTF8?, dif_pos a.isValidUTF8]
  rfl

/-- The text that is shown is the one up to the byte at which its last character ends. -/
theorem textUpTo?_shownBytes {r : Reveal} (le : r.shown ≤ r.charCount) :
    r.shownBytes?.bind (textUpTo? r.text) = some r.visible := by
  have text : r.text = r.visible ++ String.ofList (r.text.toList.drop r.shown) := by
    rw [visible, ← String.ofList_append, List.take_append_drop, String.ofList_toList]
  have cut := textUpTo?_append r.visible (String.ofList (r.text.toList.drop r.shown))
  rw [← text] at cut
  rw [shownBytes?_eq le, Option.bind_some, cut]

/-- The number of characters that are due after some steps. Without an interval all are due with the
first step, however short it is. -/
def dueAfter (text : String) (interval : Duration) (times : List Duration) : Nat :=
  if interval.nanos = 0 then if times.isEmpty then 0 else text.length
  else min text.length (total times / interval.nanos)

/-- The time is short enough for its intervals to be counted. -/
def Countable (interval : Duration) (times : List Duration) : Prop :=
  interval.nanos ≠ 0 → total times < countBound * interval.nanos

/-- A line of a text that has been shown for some steps. -/
structure After (text : String) (interval : Duration) (times : List Duration) (r : Reveal) :
    Prop where
  tells : r.text = text
  paced : r.interval = interval
  /-- The clock stands still when the line is complete. -/
  clock : r.isComplete = false → r.elapsed.nanos = total times
  le : r.shown ≤ text.length
  shown : Countable interval times → r.shown = dueAfter text interval times

theorem after_nil (text : String) (interval : Duration) :
    After text interval [] { text, interval } where
  tells := rfl
  paced := rfl
  clock _ := rfl
  le := Nat.zero_le _
  shown _ := by simp [dueAfter]

theorem After.le_charCount {text : String} {interval : Duration} {times : List Duration}
    {r : Reveal} (h : After text interval times r) : r.shown ≤ r.charCount := by
  rw [charCount, h.tells]
  exact h.le

theorem Countable.of_append {interval : Duration} {before after : List Duration}
    (h : Countable interval (before ++ after)) : Countable interval before := by
  intro slow
  have lt := h slow
  rw [Duration.total_append] at lt
  omega

theorem dueAfter_mono (text : String) (interval : Duration) (before after : List Duration) :
    dueAfter text interval before ≤ dueAfter text interval (before ++ after) := by
  unfold dueAfter
  split
  · cases before with
    | nil => exact Nat.zero_le _
    | cons time rest => exact Nat.le_refl _
  · have le : total before / interval.nanos ≤ total (before ++ after) / interval.nanos := by
      rw [Duration.total_append]
      exact Nat.div_le_div_right (Nat.le_add_right _ _)
    omega

theorem dueAfter_le (text : String) (interval : Duration) (times : List Duration) :
    dueAfter text interval times ≤ text.length := by
  unfold dueAfter
  split
  · split
    · exact Nat.zero_le _
    · exact Nat.le_refl _
  · exact Nat.min_le_left _ _

theorem due_eq_dueAfter {r : Reveal} {elapsed : Duration} {times : List Duration}
    (clock : elapsed.nanos = total times) (begun : times ≠ [])
    (countable : Countable r.interval times) :
    r.due elapsed = dueAfter r.text r.interval times := by
  unfold due dueAfter
  split
  · rw [if_neg (by simpa using begun)]
    rfl
  · next slow =>
    have counted : total times / r.interval.nanos < countBound :=
      Nat.div_lt_of_lt_mul (by rw [Nat.mul_comm]; exact countable slow)
    rw [clock, Nat.mod_eq_of_lt counted, Nat.min_comm]
    rfl

theorem due_le (r : Reveal) (elapsed : Duration) : r.due elapsed ≤ r.charCount := by
  unfold due
  split
  · exact Nat.le_refl _
  · exact Nat.min_le_right _ _

theorem length_visible {r : Reveal} (le : r.shown ≤ r.charCount) :
    r.visible.length = r.shown := by
  rw [visible, String.length_ofList, List.length_take, String.length_toList]
  exact Nat.min_eq_left le

theorem visible_proper {r : Reveal} (hidden : r.isComplete = false) :
    r.visible.toList <+: r.text.toList ∧ r.visible.length < r.text.length := by
  have lt : r.shown < r.charCount := Nat.lt_of_not_le (of_decide_eq_false hidden)
  rw [length_visible (Nat.le_of_lt lt), visible, String.toList_ofList]
  exact ⟨List.take_prefix _ _, lt⟩

/-- The part that a step shows, if it shows more than before. -/
def news (later : Reveal) (more : Bool) : List String := if more then [later.visible] else []

theorem news_proper {later : Reveal} (incomplete : later.isComplete = false) (more : Bool) :
    ∀ part ∈ later.news more,
      part.toList <+: later.text.toList ∧ part.length < later.text.length := by
  cases more with
  | true => exact List.forall_mem_singleton.2 (visible_proper incomplete)
  | false => exact fun part mem => (List.not_mem_nil mem).elim

/-- A step takes nothing back, and tells whether there is more to see. -/
structure Grows (earlier later : Reveal) (more : Bool) : Prop where
  shown_le : earlier.shown ≤ later.shown
  visible : earlier.visible.toList <+: later.visible.toList
  more_iff : more = true ↔ earlier.visible.length < later.visible.length

section Tick

variable {text : String} {interval : Duration} {past : List Duration} {r later : Reveal}
  {time : Duration} {more : Bool}

theorem After.tick (h : After text interval past r) (ticked : r.tick time = .ok (more, later)) :
    After text interval (past ++ [time]) later ∧ r.shown ≤ later.shown ∧
      (more = true ↔ r.shown < later.shown) := by
  obtain ⟨rfl, rfl, clock, le, shown⟩ := h
  have mono := dueAfter_mono r.text r.interval past [time]
  unfold Reveal.tick at ticked
  cases complete : r.isComplete with
  | true =>
    rw [complete, if_pos rfl] at ticked
    cases ticked
    refine ⟨⟨rfl, rfl, ?_, le, fun countable => ?_⟩, Nat.le_refl _, by simp⟩
    · intro hidden
      rw [complete] at hidden
      cases hidden
    · -- all characters were due before, and all of them still are
      have all : r.text.length ≤ r.shown := of_decide_eq_true complete
      have before := shown countable.of_append
      have bound := dueAfter_le r.text r.interval (past ++ [time])
      omega
  | false =>
    rw [complete, if_neg Bool.false_ne_true] at ticked
    split at ticked
    · cases ticked
    · next elapsed added =>
      have told : elapsed.nanos = total (past ++ [time]) := by
        rw [Duration.nanos_of_add? added, clock complete, Duration.total_append,
          Duration.total_singleton]
      have due (countable : Countable r.interval (past ++ [time])) :
          r.due elapsed = dueAfter r.text r.interval (past ++ [time]) :=
        due_eq_dueAfter told (by simp) countable
      dsimp only at ticked
      split at ticked
      · next new =>
        cases ticked
        exact ⟨⟨rfl, rfl, fun _ => told, due_le r elapsed, due⟩, Nat.le_of_lt new, by simp [new]⟩
      · next old =>
        cases ticked
        refine ⟨⟨rfl, rfl, fun _ => told, le, fun countable => ?_⟩, Nat.le_refl _, by simp⟩
        have before := shown countable.of_append
        rw [due countable] at old
        dsimp only
        omega

theorem After.grows (h : After text interval past r) (ticked : r.tick time = .ok (more, later)) :
    Grows r later more := by
  obtain ⟨next, le, more_iff⟩ := h.tick ticked
  refine ⟨le, ?_, ?_⟩
  · rw [Reveal.visible, Reveal.visible, String.toList_ofList, String.toList_ofList, h.tells,
      next.tells]
    exact List.take_prefix_take_left le
  · rw [length_visible h.le_charCount, length_visible next.le_charCount]
    exact more_iff

/-- Time that can be added up is no trouble. -/
theorem After.exists_tick (h : After text interval past r)
    (fits : total (past ++ [time]) < twoTo 64 * nanosPerSecond) :
    ∃ more later, r.tick time = .ok (more, later) := by
  unfold Reveal.tick
  cases complete : r.isComplete with
  | true => exact ⟨false, r, rfl⟩
  | false =>
    have inside : r.elapsed.nanos + time.nanos < twoTo 64 * nanosPerSecond := by
      rw [h.clock complete]
      simpa using fits
    rw [if_neg Bool.false_ne_true, Duration.add?_of_lt inside]
    dsimp only
    split
    · exact ⟨_, _, rfl⟩
    · exact ⟨_, _, rfl⟩

end Tick

/-- Let time go by in steps, and keep what each of them told. -/
def tickAll (r : Reveal) : List Duration → Except ClockOverflow (List Bool × Reveal)
  | [] => .ok ([], r)
  | time :: rest =>
    match r.tick time with
    | .error e => .error e
    | .ok (more, later) => (later.tickAll rest).map fun (answers, last) => (more :: answers, last)

theorem tickAll_cons {r last : Reveal} {time : Duration} {rest : List Duration}
    {answers : List Bool} (h : r.tickAll (time :: rest) = .ok (answers, last)) :
    ∃ more later others, r.tick time = .ok (more, later) ∧
      later.tickAll rest = .ok (others, last) ∧ answers = more :: others := by
  simp only [tickAll] at h
  cases ticked : r.tick time with
  | error e => rw [ticked] at h; cases h
  | ok m =>
    obtain ⟨more, later⟩ := m
    simp only [ticked] at h
    cases going : later.tickAll rest with
    | error e => rw [going] at h; cases h
    | ok n =>
      rw [going] at h
      cases h
      exact ⟨more, later, n.1, rfl, going, rfl⟩

theorem tickAll_split {r last : Reveal} {before after : List Duration} {time : Duration}
    {answers : List Bool} (h : r.tickAll (before ++ time :: after) = .ok (answers, last)) :
    ∃ told earlier more later, r.tickAll before = .ok (told, earlier) ∧
      earlier.tick time = .ok (more, later) ∧ answers[before.length]? = some more := by
  induction before generalizing r answers with
  | nil =>
    obtain ⟨more, later, others, ticked, -, rfl⟩ := tickAll_cons h
    exact ⟨[], r, more, later, rfl, ticked, rfl⟩
  | cons first before ih =>
    obtain ⟨one, next, others, ticked, going, rfl⟩ := tickAll_cons h
    obtain ⟨told, earlier, more, later, reached, tells, answer⟩ := ih going
    refine ⟨one :: told, earlier, more, later, ?_, tells, answer⟩
    simp only [tickAll, ticked, reached]
    rfl

section Steps

variable {text : String} {interval : Duration} {past times : List Duration} {r : Reveal}

theorem After.tickAll (h : After text interval past r) {answers : List Bool} {last : Reveal}
    (ticked : r.tickAll times = .ok (answers, last)) :
    After text interval (past ++ times) last := by
  induction times generalizing r past answers with
  | nil =>
    cases ticked
    rwa [List.append_nil]
  | cons time rest ih =>
    obtain ⟨more, later, others, first, going, -⟩ := tickAll_cons ticked
    have after := ih (h.tick first).1 going
    rwa [List.append_assoc, List.singleton_append] at after

theorem After.exists_tickAll (h : After text interval past r)
    (fits : total (past ++ times) < twoTo 64 * nanosPerSecond) :
    ∃ answers last, r.tickAll times = .ok (answers, last) := by
  induction times generalizing r past with
  | nil => exact ⟨[], r, rfl⟩
  | cons time rest ih =>
    rw [← List.singleton_append, ← List.append_assoc] at fits
    have first : total (past ++ [time]) < twoTo 64 * nanosPerSecond := by
      rw [Duration.total_append (past ++ [time])] at fits
      omega
    obtain ⟨more, later, ticked⟩ := h.exists_tick first
    obtain ⟨answers, last, going⟩ := ih (h.tick ticked).1 fits
    refine ⟨more :: answers, last, ?_⟩
    simp only [Reveal.tickAll, ticked, going]
    rfl

theorem nonempty_of_total_pos (h : 0 < total times) : times.isEmpty = false := by
  cases times with
  | nil => cases h
  | cons time rest => rfl

/-- The steps do not matter if they take any time at all. -/
theorem dueAfter_congr {others : List Duration} (equal : total others = total times)
    (positive : 0 < total times) :
    dueAfter text interval others = dueAfter text interval times := by
  simp only [dueAfter, equal, nonempty_of_total_pos positive,
    nonempty_of_total_pos (equal ▸ positive)]

end Steps

/-- Whatever steps the time comes in, the characters that are due are shown and no others, and they
end where a character ends. Each step shows what is due after it, and tells whether that is more
than before. So only the time in all counts, unless there is none. -/
theorem shows_what_is_due {text : String} {interval : Duration} {times : List Duration}
    (fits : total times < twoTo 64 * nanosPerSecond) (countable : Countable interval times) :
    ∃ answers r, tickAll { text, interval } times = .ok (answers, r) ∧
      r.shown = dueAfter text interval times ∧
      r.visible = String.ofList (text.toList.take r.shown) ∧
      r.shownBytes?.bind (textUpTo? text) = some r.visible ∧
      (∀ before time after, times = before ++ time :: after →
        ∃ told earlier more later, tickAll { text, interval } before = .ok (told, earlier) ∧
          earlier.tick time = .ok (more, later) ∧ answers[before.length]? = some more ∧
          earlier.shown = dueAfter text interval before ∧
          later.shown = dueAfter text interval (before ++ [time]) ∧
          later.shown ≤ text.length ∧ Grows earlier later more) ∧
      ∀ others, total others = total times → 0 < total times →
        ∃ told other, tickAll { text, interval } others = .ok (told, other) ∧
          other.visible = r.visible := by
  have begun := after_nil text interval
  have going {steps : List Duration} (short : total steps < twoTo 64 * nanosPerSecond) :
      ∃ answers r, tickAll { text, interval } steps = .ok (answers, r) :=
    begun.exists_tickAll short
  obtain ⟨answers, r, ticked⟩ := going fits
  have after : After text interval times r := begun.tickAll ticked
  have shown := after.shown countable
  refine ⟨answers, r, ticked, shown, by rw [visible, after.tells], ?_, ?_, ?_⟩
  · rw [← after.tells]
    exact textUpTo?_shownBytes after.le_charCount
  · rintro before time rest rfl
    obtain ⟨told, earlier, more, later, reached, step, answer⟩ := tickAll_split ticked
    have upTo : After text interval before earlier := begun.tickAll reached
    obtain ⟨next, -⟩ := upTo.tick step
    have soon : Countable interval (before ++ [time]) := by
      rw [← List.singleton_append, ← List.append_assoc] at countable
      exact countable.of_append
    exact ⟨told, earlier, more, later, reached, step, answer, upTo.shown soon.of_append,
      next.shown soon, next.le, upTo.grows step⟩
  · intro others equal positive
    obtain ⟨told, other, otherwise⟩ := going (equal ▸ fits)
    have upTo : After text interval others other := begun.tickAll otherwise
    have short : Countable interval others := fun slow => equal ▸ countable slow
    refine ⟨told, other, otherwise, ?_⟩
    rw [visible, visible, upTo.tells, after.tells, upTo.shown short, shown,
      dueAfter_congr equal positive]

/-- Of four characters with three bytes each, two are shown after two intervals, whether these come
in three steps or in one. -/
theorem answer_shown_in_steps :
    let interval : Duration := .ofMillis 50
    let times : List Duration := [.ofMillis 50, .ofMillis 20, .ofMillis 30]
    ∃ answers r, tickAll { text := "正解です", interval } times = .ok (answers, r) ∧
      r.shown = 2 ∧ r.visible = "正解" ∧ textUpTo? "正解です" 6 = some "正解" ∧
      ∃ told other, tickAll { text := "正解です", interval } [.ofMillis 100] = .ok (told, other) ∧
        other.visible = "正解" := by
  intro interval times
  have fits : total times < twoTo 64 * nanosPerSecond := by decide
  have countable : Countable interval times := fun _ => by decide
  obtain ⟨answers, r, ticked, shown, visible, bytes, -, same⟩ :=
    @shows_what_is_due "正解です" interval times fits countable
  have two : r.shown = 2 := shown.trans (by decide)
  have seen : r.visible = "正解" := by
    rw [visible, two]
    decide
  have six : r.shownBytes? = some 6 := by
    have ends : (endsFrom 0 "正解です".toList)[1]? = some 6 := by decide
    have tells : r.text = "正解です" := ((after_nil _ _).tickAll ticked).tells
    simp only [shownBytes?, two, tells, ends]
  rw [six, Option.bind_some, seen] at bytes
  obtain ⟨told, other, going, equal⟩ := same [.ofMillis 100] (by decide) (by decide)
  exact ⟨answers, r, ticked, two, seen, bytes, told, other, going, equal.trans seen⟩

end Reveal

end VisualNovel
