import VisualNovel.Proofs.Json.Spelled
import VisualNovel.Proofs.Playback.Diary
import VisualNovel.Proofs.Storage.RoundTrip

namespace VisualNovel

open Json (Spells encode mapM_eq_ok)

namespace Event

def kinds : List String :=
  ["dialog", "clear_dialog", "set_background", "clear_background", "set_frame", "add_foreground",
    "clear_foreground", "timeline_transition", "scene_transition", "choice", "multi_choice",
    "show_weblink", "hide_weblink", "play_sound", "clear_sound"]

variable {tag : String} {fields : List (String × Json)}

theorem payload_of_unknown (unknown : tag ∉ kinds) : payload tag = .unit .unknown := by
  unfold payload
  split
  case h_16 => rfl
  all_goals simp [kinds] at unknown

/-- The other fields are not looked at. -/
theorem value_of_unknown (unknown : tag ∉ kinds)
    (tagged : fields.filter (·.1 == "event") = [("event", .string tag)]) :
    decoder.value (.object fields) = .ok .unknown := by
  have tagged : fields.filter (·.1 == format.tag) = [("event", .string tag)] := tagged
  change format.ofEntries fields = _
  rw [Json.Tagged.ofEntries, tagged]
  change (payload tag).ofEntries _ = _
  rw [payload_of_unknown unknown]
  rfl

end Event

namespace Timeline

variable {text : String} {events : Timeline}

theorem decode_eq_ok_iff : decoder.decode text = .ok events ↔
    ∃ items, Spells text (.array items) ∧ items.mapM Event.decoder.value = .ok events := by
  have thorough : decoder.Thorough := (Json.Tagged.thorough Event.format).list
  rw [thorough.decode_eq_ok_iff coherent]
  constructor
  · rintro ⟨j, spells, value⟩
    cases j with
    | array items => exact ⟨items, spells, value⟩
    | null | bool | number | string | object => cases value
  · rintro ⟨items, spells, value⟩
    exact ⟨.array items, spells, value⟩

theorem mapM_set {items : List Json} (values : items.mapM Event.decoder.value = .ok events)
    {j : Json} {e : Event} (value : Event.decoder.value j = .ok e) (i : Nat) :
    (items.set i j).mapM Event.decoder.value = .ok (events.set i e) := by
  rw [mapM_eq_ok] at values ⊢
  rw [List.map_set, List.map_set, values, value]

end Timeline

namespace Playback

variable {p : Playback} {timeline : Timeline} {i : Nat}

theorem runThroughTold_head? (p : Playback) (left : List Event) :
    (p.runThroughTold left).2.head? = left.head?.map (p.player.index, ·) := by
  cases left with
  | nil => rfl
  | cons e rest => cases pacing : e.pacing <;> simp [runThroughTold, pacing]

/-- A player that carries out an unknown event stops there: it is blocking, and nothing comes of
it but a record. -/
theorem runThrough_unknown (p : Playback) (d : Diary) {left : List Event} {k : Nat}
    (unknown : left[k]? = some .unknown)
    (dispatched : p.player.index + k ∈ (p.runThroughTold left).2.map Prod.fst) :
    (p.runThrough left).1 = .stalled ∧
      (p.runThrough left).2.player = { p.player with index := p.player.index + k + 1 } ∧
      (p.runThroughDiary d left).turns.head? = some ⟨p.player.index + k, .unknown, []⟩ := by
  induction left generalizing p d k with
  | nil => cases unknown
  | cons e rest ih =>
    cases pacing : e.pacing with
    | immediate =>
      cases k with
      | zero =>
        cases unknown
        cases pacing
      | succ k =>
        have next : ((p.passing e).apply e).player.index = p.player.index + 1 := by simp
        have place : p.player.index + (k + 1) = ((p.passing e).apply e).player.index + k := by
          omega
        simp only [runThroughTold, pacing, List.map_cons, List.mem_cons] at dispatched
        have later := dispatched.resolve_left (by omega)
        rw [place] at later ⊢
        obtain ⟨answer, player, turn⟩ := ih ((p.passing e).apply e) (d := _) unknown later
        simp only [runThrough, runThroughDiary, pacing]
        refine ⟨answer, ?_, turn⟩
        rw [player]
        simp
    | blocking =>
      simp only [runThroughTold, pacing, List.map_cons, List.map_nil, List.mem_singleton]
        at dispatched
      obtain rfl : k = 0 := by omega
      cases unknown
      simp only [runThrough, runThroughDiary, pacing]
      refine ⟨rfl, by simp [block], ?_⟩
      have untouched : ((p.passing .unknown).block .unknown).2.surface =
          (p.passing .unknown).surface.performAll [] := note_surface _ _
      have nothing := issued_of_performAll untouched
      rw [nothing, Diary.write_nil]
      rfl

/-- What comes of a call that carries out an unknown event: the answer tells that playback stalls,
the cursor is behind the event, the surface got nothing for it, and the next pointer down goes on
with the event behind it, if there is one. -/
structure StallsAt (timeline : Timeline) (i : Nat) (r : Progress × Playback) (d : Diary) :
    Prop where
  answer : r.1 = .stalled
  cursor : r.2.player.index = i + 1
  silent : d.turns.head? = some ⟨i, .unknown, []⟩
  continues : r.2.advanceTold.2.head? = timeline[i + 1]?.map (i + 1, ·)
  ends : timeline[i + 1]? = none → r.2.advance.1 = .ended

theorem run_stalls (plays : p.player.timeline = some timeline) (leads : p.leadsOn = true)
    (unknown : timeline[i]? = some .unknown) (dispatched : i ∈ p.runTold.2.map Prod.fst)
    (d : Diary) : StallsAt timeline i (p.run.2.settle p.run.1) (p.runDiary d) := by
  have reached : p.player.index ≤ i := by
    rw [(runTold_moved p).2.numbers, List.mem_range'_1] at dispatched
    exact dispatched.1
  obtain ⟨k, rfl⟩ := Nat.exists_eq_add_of_le reached
  rw [runTold, plays] at dispatched
  have there : (timeline.drop p.player.index)[k]? = some .unknown := by
    rw [List.getElem?_drop, unknown]
  obtain ⟨answer, player, turn⟩ := runThrough_unknown p d there dispatched
  simp only [run, runDiary, plays]
  generalize (p.runThrough (timeline.drop p.player.index)) = r at answer player ⊢
  obtain ⟨g, q⟩ := r
  obtain rfl : g = .stalled := answer
  have player : q.player = { p.player with index := p.player.index + k + 1 } := player
  have later : (q.settle .stalled).2.player.timeline = some timeline := by simp [player, plays]
  have cursor : (q.settle .stalled).2.player.index = p.player.index + k + 1 := by simp [player]
  have onward : (q.settle .stalled).2.leadsOn = true := by
    simpa [leadsOn, player] using leads
  refine ⟨rfl, cursor, turn, ?_, fun last => ?_⟩
  · rw [advanceTold_of_leads onward, runTold, later]
    dsimp only
    rw [runThroughTold_head?, cursor, List.head?_drop]
  · have none : timeline.drop (p.player.index + k + 1) = [] := by
      rw [List.drop_eq_nil_iff]
      exact List.getElem?_eq_none_iff.1 last
    rw [← advanceTold_fst, advanceTold_of_leads onward, run, later]
    dsimp only
    rw [cursor, none]
    rfl

theorem startAt_stalls {first : Nat} (unknown : timeline[i]? = some .unknown)
    (dispatched : i ∈ (p.startAtTold timeline first).2.map Prod.fst) :
    StallsAt timeline i (p.startAt timeline first) (p.startAtDiary timeline first) := by
  have ready := p.readied_ready timeline first
  exact run_stalls ready.timeline (leadsOn_iff.2 ⟨ready.navigation, ready.enabled, ready.reveal⟩)
    unknown dispatched _

theorem call_stalls {c : Call} {t : Told} (plays : p.player.timeline = some timeline)
    (unknown : timeline[i]? = some .unknown) (called : p.callTold c = .ok t)
    (dispatched : i ∈ t.2.map Prod.fst) (d : Diary) :
    StallsAt timeline i t.1 (p.callDiary d c t.1.2) := by
  obtain ⟨rfl, leads⟩ | stays := p.leads_or_stays c
  · rw [callDiary_of_leads d leads]
    cases called
    rw [advanceTold_of_leads leads] at dispatched ⊢
    exact run_stalls plays leads unknown dispatched d
  · rw [callTold_of_stays called stays] at dispatched
    cases dispatched

end Playback

/-- Unknown events break nothing. Of a timeline that is accepted any event can be replaced by an
object whose kind is none of the known ones, with any other fields beside it. The timeline is still
accepted, as long as before, and with the same events in the other places; and every player that
comes to the unknown event stalls behind it and then goes on. -/
theorem Timeline.unknown_events_stall {text : String} {events : Timeline}
    (accepted : decoder.decode text = .ok events) :
    ∃ items, Spells text (.array items) ∧ items.length = events.length ∧
      ∀ (i : Nat) (tag : String) (fields : List (String × Json)) (changed : String),
        i < items.length → tag ∉ Event.kinds →
        fields.filter (·.1 == "event") = [("event", .string tag)] →
        Spells changed (.array (items.set i (.object fields))) →
        ∃ others : Timeline, decoder.decode changed = .ok others ∧
          others.length = events.length ∧ others[i]? = some .unknown ∧
          (∀ j, j ≠ i → others[j]? = events[j]?) ∧
          (∀ (p : Playback) first, i ∈ (p.startAtTold others first).2.map Prod.fst →
            Playback.StallsAt others i (p.startAt others first) (p.startAtDiary others first)) ∧
          ∀ (p : Playback) d c t, p.player.timeline = some others → p.callTold c = .ok t →
            i ∈ t.2.map Prod.fst → Playback.StallsAt others i t.1 (p.callDiary d c t.1.2) := by
  obtain ⟨items, spells, values⟩ := decode_eq_ok_iff.1 accepted
  have same : items.length = events.length := by
    simpa using congrArg List.length (mapM_eq_ok.1 values)
  refine ⟨items, spells, same, fun i tag fields changed inside unknown tagged spelled => ?_⟩
  have value := Event.value_of_unknown unknown tagged
  have there : (events.set i .unknown)[i]? = some .unknown :=
    List.getElem?_set_self (same ▸ inside)
  refine ⟨events.set i .unknown, decode_eq_ok_iff.2 ⟨_, spelled, mapM_set values value i⟩,
    List.length_set, there, fun j other => List.getElem?_set_ne other.symm, ?_, ?_⟩
  · exact fun p first dispatched => Playback.startAt_stalls there dispatched
  · exact fun p d c t plays called dispatched => Playback.call_stalls plays there called dispatched d

/-- A quake, which there is no such event of, in the place of an event that clears the dialog.
Beside its kind it has what would be faults in a line and in a choice. -/
theorem Timeline.quake_stalls :
    ∃ text changed events others, decoder.decode text = .ok events ∧
      events = [.clearDialog, .dialog { text := "Hi" }] ∧ decoder.decode changed = .ok others ∧
      others = [.unknown, .dialog { text := "Hi" }] ∧
      Playback.StallsAt others 0 (Playback.fresh.startAt others 0)
        (Playback.fresh.startAtDiary others 0) := by
  let line : Json := .object [("event", .string "dialog"), ("text", .string "Hi")]
  let items : List Json := [.object [("event", .string "clear_dialog")], line]
  let quake : List (String × Json) :=
    [("text", .number (.integer 5)), ("event", .string "quake"), ("choices", .null)]
  have five : (Json.Number.integer 5).reread = .number (.integer 5) :=
    Json.Number.reread_of_prints (Json.Number.prints_integer (by decide) (by decide))
  have spells : Spells (Json.array items).pretty (.array items) :=
    Json.spells_pretty (by decide) (by decide) rfl (by decide)
  have spelled : Spells (Json.array [.object quake, line]).pretty (.array [.object quake, line]) :=
    Json.spells_pretty (by decide) (by decide) (by simp [line, quake, Json.reread, five])
      (by decide)
  have values : items.mapM Event.decoder.value =
      .ok [.clearDialog, .dialog { text := "Hi" }] := rfl
  have accepted := decode_eq_ok_iff.2 ⟨items, spells, values⟩
  obtain ⟨items', spells', -, replaced⟩ := unknown_events_stall accepted
  obtain rfl : items = items' := Json.array.inj (spells.unique spells')
  obtain ⟨others, decoded, length, first, later, begun, -⟩ :=
    replaced 0 "quake" quake _ (by decide) (by decide) rfl spelled
  have both : others = [.unknown, .dialog { text := "Hi" }] := by
    have second := later 1 (by decide)
    obtain ⟨_, _, rfl⟩ := List.length_eq_two.1 length
    simp_all
  refine ⟨_, _, _, others, accepted, rfl, decoded, both, begun _ _ ?_⟩
  rw [both]
  decide

end VisualNovel
