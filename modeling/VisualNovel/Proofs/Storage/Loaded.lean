import VisualNovel.Proofs.Json.Ensured
import VisualNovel.Proofs.Storage.RoundTrip

/-!
What is sure of a registry that was loaded, and what is left of it when it is saved and loaded
again: everything but the numbers in single precision that the first file has made infinite.
-/

namespace VisualNovel

open Json (Decoder Fields Number Tagged Within encode field fieldsDepth fieldsNumbers)

/-- What is sure of an event that was read: its payload is as payloads are held and lies within `d`
brackets, and the numbers of its options fit their types. -/
def Event.Sound (d : Nat) : Event → Prop
  | .sceneTransition jump => ∀ data, jump.data = some data → data.IsPayload ∧ Within d data
  | .multiChoice set =>
    set.minSelect < twoTo 64 ∧ (∀ n, set.maxSelect = some n → n < twoTo 64) ∧
      ∀ c ∈ set.choices, ∀ x, c.point = some x → x.isFinite = true
  | _ => True

open Json.Fields (makes_true makes_one)

section Made

variable {d : Nat}

theorem makes_payload : Decoder.any.option.Makes d fun o =>
    ∀ data, o = some data → data.IsPayload ∧ Within d data := by
  rintro j o within made data rfl
  have within := Decoder.makes_any.option within made data rfl
  refine ⟨⟨within.1, fun x inside => within.2.plain _ inside, ?_⟩, within.2⟩
  rintro rfl
  cases j with
  | null => cases made
  | bool | number | string | array | object =>
    obtain ⟨a, value, same⟩ := Json.map_eq_ok.1 made
    cases same
    exact absurd (Json.canonical_eq_null (Except.ok.inj value)) nofun

theorem SceneJump.makes : record.fields.Makes (fun _ => Within d) fun jump =>
    ∀ data, jump.data = some data → data.IsPayload ∧ Within d data :=
  .seq (.map fun _ _ _ _ _ known => known) (makes_one makes_payload nofun)

theorem MultiChoice.makes : record.fields.Makes (fun _ => Within d) fun c =>
    ∀ x, c.point = some x → x.isFinite = true :=
  .seq (.seq (.seq (.map fun _ _ _ _ _ _ _ _ _ known => known) (makes_true _)) (makes_true _))
    (makes_one Decoder.makes_double.option nofun)

theorem MultiChoiceSet.makes : record.fields.Makes (fun _ => Within d) fun set =>
    set.minSelect < twoTo 64 ∧ (∀ n, set.maxSelect = some n → n < twoTo 64) ∧
      ∀ c ∈ set.choices, ∀ x, c.point = some x → x.isFinite = true := by
  have choices : (Fields.required "choices" MultiChoice.record.decoder.list).Makes (fun _ => Within d)
      fun cs => ∀ c ∈ cs, ∀ x, c.point = some x → x.isFinite = true :=
    makes_one (Json.Record.makes MultiChoice.makes).list nofun
  have least : (Fields.defaulted "minSelect" .index 0).Makes (fun _ => Within d) (· < twoTo 64) :=
    makes_one (Decoder.makes_natural _ _) (by rintro _ ⟨⟩; decide)
  have most : (Fields.optional "maxSelect" .index).Makes (fun _ => Within d)
      fun o => ∀ n, o = some n → n < twoTo 64 :=
    makes_one (Decoder.makes_natural _ _).option nofun
  exact .seq (.seq (.seq (.seq (.seq (.map fun _ _ within made _ _ _ _ _ low _ high _ _ =>
    ⟨low, high, choices within made⟩) (makes_true _)) (makes_true _)) least) most) (makes_true _)

theorem Event.makes : decoder.Makes (d + 1) (Sound d) := by
  refine Tagged.makes fun tag payload known => ?_
  cases known
  unfold Event.payload
  split
  case h_9 => exact Fields.Makes.map SceneJump.makes
  case h_11 => exact Fields.Makes.map MultiChoiceSet.makes
  all_goals first | exact Fields.Makes.map (makes_true _) | exact trivial

end Made

theorem Timeline.ensures {d : Nat} :
    decoder.Ensures (d + 2) fun es => ∀ e ∈ es, Event.Sound d e :=
  (Tagged.ensures Event.makes).list

theorem Registry.sound_of_decode {text : String} {r : Registry}
    (h : record.decoder.decode text = .ok r) :
    ∀ entry ∈ r.timelines.entries, ∀ e ∈ entry.2, e.Sound 123 := by
  obtain ⟨inspected, -, made⟩ := Decoder.decode_eq_ok.1 h
  obtain ⟨look, made, saw⟩ :=
    Json.Record.saw_of_inspect (d := 126) (Json.Document.plain_ofText text) inspected made
  have timelines : record.fields.Makes (fun name j => record.Saw 126 (name, j)) fun r =>
      ∀ entry ∈ r.timelines.entries, ∀ e ∈ entry.2, e.Sound 123 := by
    refine .seq (.seq (.map (makes_one ?_ nofun)) (makes_true _)) (makes_true _)
    rintro j m ⟨f, known, named, node, rfl, plain, inspected⟩ made images - audio -
    have known : f ∈ _ :: _ :: _ :: [] := known
    obtain rfl | known := List.mem_cons.1 known
    · exact Timeline.ensures.dict plain inspected made
    · obtain rfl | known := List.mem_cons.1 known
      · exact absurd named (by decide : "images" ≠ "timelines")
      · cases List.mem_singleton.1 known
        exact absurd named (by decide : "audio" ≠ "timelines")
  exact timelines saw made

section Written

variable {d : Nat} {e : Event}

theorem Event.Sound.held (h : e.Sound d) : e.Held := by
  rintro jump data rfl some
  exact (h data some).1

theorem DialogLine.fits (l : DialogLine) : ∀ n ∈ fieldsNumbers l.fields, n.Fits := by
  intro n mem
  have single : (∃ x, l.textFillAlpha = some x ∧ n = .single x) ∨
      ∃ x, l.actorFillAlpha = some x ∧ n = .single x := by simpa [fields] using mem
  obtain ⟨x, -, rfl⟩ | ⟨x, -, rfl⟩ := single <;> trivial

theorem Image.fits (i : Image) : ∀ n ∈ fieldsNumbers i.fields, n.Fits := by
  intro n mem
  have single : (∃ x, i.x = some x ∧ n = .single x) ∨ ∃ x, i.y = some x ∧ n = .single x := by
    simpa [fields] using mem
  obtain ⟨x, -, rfl⟩ | ⟨x, -, rfl⟩ := single <;> trivial

theorem Background.fits (b : Background) : ∀ n ∈ fieldsNumbers b.fields, n.Fits := by
  intro n mem
  exact b.toImage.fits n (by simpa [fields] using mem)

theorem fits_word {k : Nat} (h : k < twoTo 64) : (Number.integer k).Fits :=
  ⟨by omega, Int.ofNat_lt.2 h⟩

theorem MultiChoice.fits {c : MultiChoice} (h : ∀ x, c.point = some x → x.isFinite = true) :
    ∀ n ∈ (encode c).numbers, n.Fits := by
  intro n mem
  have point : ∃ x, c.point = some x ∧ n = .double x := by
    have mem : n ∈ fieldsNumbers c.fields := mem
    cases flag : c.contraindication <;> simpa [fields, flag] using mem
  obtain ⟨x, some, rfl⟩ := point
  exact h x some

theorem MultiChoiceSet.fits {set : MultiChoiceSet} (h : (Event.multiChoice set).Sound d) :
    ∀ n ∈ fieldsNumbers set.fields, n.Fits := by
  obtain ⟨low, high, points⟩ := h
  intro n mem
  simp only [fields, Json.mem_numbers_append, Json.mem_numbers_field, Json.mem_numbers_present,
    Json.mem_numbers_list, Json.mem_numbers_string, Json.mem_numbers_nat, Json.mem_numbers_bool,
    or_false] at mem
  obtain (⟨c, inside, mem⟩ | rfl) | ⟨k, some, rfl⟩ := mem
  · exact MultiChoice.fits (points c inside) n mem
  · exact fits_word low
  · exact fits_word (high k some)

theorem Event.Sound.fits (h : e.Sound d) : ∀ n ∈ (encode e).numbers, n.Fits := by
  simp only [mem_numbers]
  cases e with
  | sceneTransition jump =>
    intro n mem
    simp only [fields, SceneJump.fields, Json.mem_numbers_append, Json.mem_numbers_field,
      Json.mem_numbers_present, Json.mem_numbers_string, false_or] at mem
    obtain ⟨data, some, inside⟩ := mem
    exact ((h data some).2.plain n inside).fits
  | multiChoice set => exact MultiChoiceSet.fits h
  | dialog line => exact line.fits
  | setBackground image => exact image.fits
  | setFrame image => exact image.fits
  | addForeground image => exact image.fits
  | choice => simp [fields, Choice.mem_numbers]
  | showWebLink link => simp [fields, WebLink.fields]
  | timelineTransition | playSound | clearSound | clearDialog | clearBackground
  | clearForeground | hideWebLink | unknown => simp [fields]

theorem DialogLine.shallow (l : DialogLine) : fieldsDepth l.fields ≤ d := by
  simp [fields]

theorem Image.shallow (i : Image) : fieldsDepth i.fields ≤ d := by
  simp [fields]

theorem Background.shallow (b : Background) : fieldsDepth b.fields ≤ d := by
  simpa [fields] using b.toImage.shallow

theorem Choice.shallow (c : Choice) : (encode c).depth ≤ d + 1 := by
  have fields : fieldsDepth (field "text" c.text ++ field "key" c.key) ≤ d := by simp
  exact Nat.succ_le_succ fields

theorem MultiChoice.shallow (c : MultiChoice) : (encode c).depth ≤ d + 1 := by
  have shallow : fieldsDepth c.fields ≤ d := by
    cases flag : c.contraindication <;> simp [fields, flag]
  exact Nat.succ_le_succ shallow

/-- The payload is the only part of an event that nests deep. -/
theorem Event.Sound.shallow (h : e.Sound (d + 2)) : (encode e).depth ≤ d + 3 := by
  have fields : fieldsDepth e.fields ≤ d + 2 := by
    cases e with
    | sceneTransition jump =>
      have payload : ∀ data, jump.data = some data → (encode data).depth ≤ d + 2 :=
        fun data some => (h data some).2.shallow
      simpa [fields, SceneJump.fields] using payload
    | multiChoice set =>
      simpa [fields, MultiChoiceSet.fields] using Json.depth_list_le.2 fun c _ => c.shallow
    | choice options =>
      simpa [fields] using Json.depth_list_le.2 fun c _ => c.shallow
    | dialog line => exact line.shallow
    | setBackground image => exact image.shallow
    | setFrame image => exact image.shallow
    | addForeground image => exact image.shallow
    | showWebLink link => simp [fields, WebLink.fields]
    | timelineTransition | playSound | clearSound | clearDialog | clearBackground
    | clearForeground | hideWebLink | unknown => simp [fields]
  have written : fieldsDepth (field "event" e.tag ++ e.fields) ≤ d + 2 := by simpa using fields
  exact Nat.succ_le_succ written

/-- Four brackets stand around a payload: the file's, the timelines', the timeline's, the event's. -/
theorem Registry.shallow {r : Registry}
    (sound : ∀ entry ∈ r.timelines.entries, ∀ e ∈ entry.2, e.Sound (d + 2)) :
    (encode r).depth ≤ d + 6 := by
  have strings (m : Dict String) : (encode m).depth ≤ d + 5 :=
    Json.depth_dict_le.2 fun _ _ => Nat.zero_le _
  have timelines : (encode r.timelines).depth ≤ d + 5 :=
    Json.depth_dict_le.2 fun entry mem =>
      Json.depth_list_le.2 fun e inside => (sound entry mem e inside).shallow
  have written : fieldsDepth (field "timelines" r.timelines ++ field "images" r.images
      ++ field "audio" r.audio) ≤ d + 5 := by
    simp [timelines, strings]
  exact Nat.succ_le_succ written

end Written

namespace Storage

variable {bytes : ByteArray} {r : Registry}

theorem sound_of_loadRegistry (h : loadRegistry bytes = .ok r) :
    ∀ entry ∈ r.timelines.entries, ∀ e ∈ entry.2, e.Sound 123 := by
  simp only [loadRegistry, load, Json.bind_eq_ok, Json.mapError_eq_ok] at h
  obtain ⟨text, -, decoded⟩ := h
  exact Registry.sound_of_decode decoded

theorem held_of_loadRegistry (h : loadRegistry bytes = .ok r) : r.Held :=
  fun entry mem e inside => (sound_of_loadRegistry h entry mem e inside).held

theorem fits_of_loadRegistry (h : loadRegistry bytes = .ok r) :
    ∀ n ∈ (encode r).numbers, n.Fits := by
  intro n mem
  obtain ⟨entry, mem, e, inside, written⟩ := Registry.mem_numbers.1 mem
  exact (sound_of_loadRegistry h entry mem e inside).fits n written

theorem load_save_loaded (h : loadRegistry bytes = .ok r)
    (back : ∀ n ∈ (encode r).numbers, n.ReadBack) :
    loadRegistry (saveRegistry r) = .ok r.kept :=
  load_save_registry (held_of_loadRegistry h) (fits_of_loadRegistry h) back
    (Registry.shallow (sound_of_loadRegistry h))

theorem kept_of_loadRegistry (h : loadRegistry bytes = .ok r) :
    r.kept = r ↔ ∀ n ∈ (encode r).numbers, n.Finite := by
  rw [Registry.kept_eq_self_iff (held_of_loadRegistry h)]
  constructor
  · intro finite n mem
    cases n with
    | integer i => trivial
    | double x => exact fits_of_loadRegistry h _ mem
    | single x => exact finite x mem
  · intro finite x mem
    exact finite (.single x) mem

/-- What was loaded can be saved, and is loaded again but for the numbers in single precision that
are not finite. It is loaded as it was exactly if there are none. -/
theorem reloaded_iff_finite (h : loadRegistry bytes = .ok r)
    (back : ∀ n ∈ (encode r).numbers, n.ReadBack) :
    loadRegistry (saveRegistry r) = .ok r.kept ∧
      (loadRegistry (saveRegistry r) = .ok r ↔ ∀ n ∈ (encode r).numbers, n.Finite) := by
  have again := load_save_loaded h back
  refine ⟨again, ?_⟩
  rw [again, Except.ok.injEq, kept_of_loadRegistry h]

/-- A file with a name that is repeated, an event as a list, and one with its fields out of order. -/
def looseFile : ByteArray :=
  (Json.object
    [("timelines", .object
      [("s", .array []),
       ("s", .array
         [.array [.string "set_frame", .string "a", .null, .number (.double 1.5)],
          .object
            [("data", .object [("to", .bool true), ("at", .array [.null])]), ("note", .null),
             ("key", .string "b"), ("event", .string "scene_transition")]])])]).compact.toUTF8

theorem looseFile_reloaded :
    ∃ r, loadRegistry looseFile = .ok r ∧ loadRegistry (saveRegistry r) = .ok r := by
  obtain ⟨r, loaded, back, finite⟩ : ∃ r, loadRegistry looseFile = .ok r ∧
      (∀ n ∈ (encode r).numbers, n.ReadBack) ∧ ∀ n ∈ (encode r).numbers, n.Finite := by
    decide +kernel
  exact ⟨r, loaded, (reloaded_iff_finite loaded back).2.2 finite⟩

/-- A file with a coordinate that double precision can hold and single precision cannot. -/
def farFile : ByteArray :=
  (Json.object
    [("timelines", .object
      [("s", .array
        [.object [("event", .string "add_foreground"), ("key", .string "a"),
          ("x", .number (.double 1e39))]])])]).compact.toUTF8

/-- The coordinate is loaded as infinite, and saved as null. -/
theorem farFile_not_reloaded :
    ∃ r, loadRegistry farFile = .ok r ∧ (∀ n ∈ (encode r).numbers, n.ReadBack) ∧
      loadRegistry (saveRegistry r) ≠ .ok r := by
  obtain ⟨r, loaded, back, infinite⟩ : ∃ r, loadRegistry farFile = .ok r ∧
      (∀ n ∈ (encode r).numbers, n.ReadBack) ∧ ¬∀ n ∈ (encode r).numbers, n.Finite := by
    decide +kernel
  refine ⟨r, loaded, back, fun same => infinite ?_⟩
  rw [load_save_loaded loaded back, Except.ok.injEq] at same
  exact (kept_of_loadRegistry loaded).1 same

end Storage

end VisualNovel
