import VisualNovel.Proofs.Playback.Calls

namespace VisualNovel.Playback

/-- An answer with the events that were carried out before it, each with its number. -/
abbrev Told := (Progress × Playback) × List (Nat × Event)

def runThroughTold (p : Playback) : List Event → Told
  | [] => ((.ended, p.note (.reachedEnd p.player.index)), [])
  | event :: rest =>
    let q := p.passing event
    match event.pacing with
    | .immediate =>
      let (r, told) := (q.apply event).runThroughTold rest
      (r, (p.player.index, event) :: told)
    | .blocking => (q.block event, [(p.player.index, event)])

def runTold (p : Playback) : Told :=
  match p.player.timeline with
  | none => ((.ended, p), [])
  | some timeline => p.runThroughTold (timeline.drop p.player.index)

def startAtTold (p : Playback) (timeline : Timeline) (index : Nat) : Told :=
  let p := { p with
    player.timeline := some timeline
    player.index := index
    player.reveal := none
    player.gate := none
    player.navigation := none }
  let p := p.setAdvanceEnabled true
  let p := p.note (.started p.player.timelineKey index timeline.length)
  let ((progress, p), told) := p.runTold
  (p.settle progress, told)

def advanceTold (p : Playback) : Told :=
  if p.player.navigation.isSome then ((.finished, p), [])
  else if !p.player.advanceEnabled then ((p.player.progress, p.note .advanceIgnored), [])
  else
    match p.player.reveal with
    | some reveal =>
      let p := { p with player.reveal := none }
      let p := p.perform (.setDialogText reveal.text p.player.dialogStyle)
      ((p.note .lineCompleted).settle .waitInput, [])
    | none =>
      let ((progress, p), told) := p.runTold
      (p.settle progress, told)

def callTold (p : Playback) : Call → Except ClockOverflow Told
  | .advance => .ok p.advanceTold
  | .press id => .ok (p.press id, [])
  | .tick time => (·, []) <$> p.tick time

/-- Make some calls, and list what they carry out behind what was carried out before. -/
def callsTold (r : Told) (cs : List Call) : Except ClockOverflow Told :=
  cs.foldlM (fun r c => (fun t => (t.1, r.2 ++ t.2)) <$> r.1.2.callTold c) r

@[simp] theorem runThroughTold_fst (p : Playback) (left : List Event) :
    (p.runThroughTold left).1 = p.runThrough left := by
  induction left generalizing p with
  | nil => rfl
  | cons e rest ih =>
    cases he : e.pacing with
    | immediate => simp only [runThroughTold, runThrough, he, ih]
    | blocking => simp only [runThroughTold, runThrough, he]

@[simp] theorem runTold_fst (p : Playback) : p.runTold.1 = p.run := by
  unfold runTold run
  cases p.player.timeline with
  | none => rfl
  | some timeline => exact runThroughTold_fst p _

@[simp] theorem startAtTold_fst (p : Playback) (timeline : Timeline) (index : Nat) :
    (p.startAtTold timeline index).1 = p.startAt timeline index := by
  simp only [startAtTold, startAt, runTold_fst]

@[simp] theorem advanceTold_fst (p : Playback) : p.advanceTold.1 = p.advance := by
  unfold advanceTold advance
  split
  · rfl
  · split
    · rfl
    · cases p.player.reveal with
      | some reveal => rfl
      | none => simp only [runTold_fst]

theorem callTold_fst (p : Playback) (c : Call) : Prod.fst <$> p.callTold c = p.call c := by
  cases c with
  | advance => exact congrArg Except.ok p.advanceTold_fst
  | press id => rfl
  | tick time =>
    simp only [callTold, call]
    cases p.tick time <;> rfl

theorem exists_callTold {p : Playback} {c : Call} {r : Progress × Playback}
    (h : p.call c = .ok r) : ∃ told, p.callTold c = .ok (r, told) := by
  rw [← callTold_fst] at h
  cases told : p.callTold c with
  | error e => rw [told] at h; cases h
  | ok t =>
    rw [told] at h
    cases h
    exact ⟨t.2, rfl⟩

theorem call_of_callTold {p : Playback} {c : Call} {t : Told} (h : p.callTold c = .ok t) :
    p.call c = .ok t.1 := by
  rw [← callTold_fst, h]
  rfl

/-- Time carries out nothing. -/
theorem callTold_tick {p : Playback} {time : Duration} {t : Told}
    (h : p.callTold (.tick time) = .ok t) : t.2 = [] := by
  simp only [callTold] at h
  cases ticked : p.tick time with
  | error e =>
    rw [ticked] at h
    cases h
  | ok r =>
    rw [ticked] at h
    cases h
    rfl

theorem callsTold_cons {r s : Told} {c : Call} {cs : List Call} :
    callsTold r (c :: cs) = .ok s ↔
      ∃ t, r.1.2.callTold c = .ok t ∧ callsTold (t.1, r.2 ++ t.2) cs = .ok s := by
  simp only [callsTold, List.foldlM_cons]
  cases r.1.2.callTold c with
  | error e => simp [bind, Except.bind, Functor.map, Except.map]
  | ok t => simp [bind, Except.bind, Functor.map, Except.map]

theorem exists_callsTold {r : Told} {s : Progress × Playback} {cs : List Call}
    (h : calls r.1 cs = .ok s) : ∃ told, callsTold r cs = .ok (s, told) := by
  induction cs generalizing r with
  | nil =>
    cases h
    exact ⟨r.2, rfl⟩
  | cons c rest ih =>
    obtain ⟨m, hm, hs⟩ := calls_cons.1 h
    obtain ⟨told, ht⟩ := exists_callTold hm
    obtain ⟨all, hall⟩ := @ih (m, r.2 ++ told) hs
    exact ⟨all, callsTold_cons.2 ⟨_, ht, hall⟩⟩

end VisualNovel.Playback
