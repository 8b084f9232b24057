import VisualNovel.Proofs.Json.Restored
import VisualNovel.Registry
import VisualNovel.Snapshot

namespace VisualNovel

open Json (Decoder Fields Record Tagged Number encode fieldsNumbers field)

def DialogLine.kept (l : DialogLine) : DialogLine :=
  { l with
    textFillAlpha := l.textFillAlpha.filter (·.isFinite)
    actorFillAlpha := l.actorFillAlpha.filter (·.isFinite) }

def Image.kept (i : Image) : Image :=
  { i with x := i.x.filter (·.isFinite), y := i.y.filter (·.isFinite) }

def Background.kept (b : Background) : Background := { b with toImage := b.toImage.kept }

def Event.kept : Event → Event
  | .dialog line => .dialog line.kept
  | .setBackground image => .setBackground image.kept
  | .setFrame image => .setFrame image.kept
  | .addForeground image => .addForeground image.kept
  | event => event

def Registry.kept (r : Registry) : Registry :=
  { r with timelines := r.timelines.map (List.map Event.kept) }

/-- A value in the form in which payloads are held: its objects are sorted, its numbers are not in
single precision, and it is not null, which stands for no payload. -/
structure Json.IsPayload (j : Json) : Prop where
  sorted : j.canonical = j
  double : ∀ x, .single x ∉ j.numbers
  notNull : j ≠ .null

namespace Json

theorem Number.reread_eq_self {n : Number} (recoverable : n.Recoverable)
    (double : ∀ x, n ≠ .single x) : n.reread = .number n := by
  obtain ⟨fits, back⟩ := recoverable
  cases n with
  | integer i => exact reread_of_prints (prints_integer fits.1 fits.2)
  | double x => exact reread_of_prints (prints_double fits back)
  | single x => exact absurd rfl (double x)

theorem reread_eq_self (j : Json) (h : ∀ n ∈ j.numbers, n.reread = .number n) : j.reread = j := by
  induction j using induct with
  | null | bool | string => rfl
  | number n => exact h n (by simp [numbers])
  | array items ih =>
    simp only [numbers, mem_itemNumbers] at h
    have same : ∀ item ∈ items, item.reread = item := fun item mem =>
      ih item mem fun n inside => h n ⟨item, mem, inside⟩
    rw [reread, rereadItems_eq, List.map_congr_left same, List.map_id']
  | object fields ih =>
    simp only [numbers, mem_fieldsNumbers] at h
    have same : ∀ field ∈ fields, (field.1, field.2.reread) = field := fun field mem => by
      rw [ih field mem fun n inside => h n ⟨field, mem, inside⟩]
    rw [reread, rereadFields_eq, List.map_congr_left same, List.map_id']

theorem IsPayload.restores {j : Json} (h : j.IsPayload) :
    Decoder.any.option.Restores j (some j) := by
  intro recoverable
  have same : j.reread = j := reread_eq_self j fun n inside =>
    Number.reread_eq_self (recoverable n inside) fun x same => h.double x (same ▸ inside)
  have value : Decoder.any.value j = .ok j := congrArg _ h.sorted
  change Decoder.any.option.value j.reread = _
  rw [same]
  cases j with
  | null => exact absurd rfl h.notNull
  | bool | number | string | array | object => exact Json.map_eq_ok.2 ⟨_, value, rfl⟩

end Json

open Json.Decoder (restores_string restores_bool restores_index restores_double restores_single
  strict_string strict_index strict_double)
open Json.Fields (restores_field restores_present restores_optional restores_flag)

theorem restores_finite (name : String) (o : Option Float32) :
    (Fields.optional name .single).Restores (Json.present name o) (o.filter (·.isFinite)) := by
  refine restores_present (fun x some => ?_) ?_
  · rw [some]
    exact restores_single x
  · rintro rfl
    rfl

theorem Choice.restores (c : Choice) : record.decoder.Restores c c :=
  Record.decoder_restores rfl (by decide) <|
    ((restores_field (restores_string c.text)).map _).seq (restores_field (restores_string c.key))

theorem choicesRecord_restores (cs : List Choice) :
    choicesRecord.fields.Restores (Json.field "choices" cs) cs := by
  have same := Decoder.Restores.list (f := id) fun c (_ : c ∈ cs) => c.restores
  rw [List.map_id] at same
  exact restores_field same

theorem MultiChoice.restores (c : MultiChoice) : record.decoder.Restores c c :=
  Record.decoder_restores rfl (by decide) <|
    ((((restores_field (restores_string c.text)).map _).seq
      (restores_field (restores_bool c.correct))).seq
      (restores_flag c.contraindication)).seq
      (restores_optional strict_double restores_double)

theorem MultiChoiceSet.restores (s : MultiChoiceSet) : record.fields.Restores s.fields s := by
  have same := Decoder.Restores.list (f := id) fun c (_ : c ∈ s.choices) => c.restores
  rw [List.map_id] at same
  exact ((((((restores_field same).map _).seq
    (restores_field (restores_string s.correctKey))).seq
    (restores_field (restores_string s.incorrectKey))).seq
    (restores_field (restores_index s.minSelect))).seq
    (restores_optional strict_index restores_index)).seq
    (restores_field (restores_bool s.shuffle))

theorem DialogLine.restores (l : DialogLine) : record.fields.Restores l.fields l.kept :=
  ((((((restores_field (restores_string l.text)).map _).seq
    (restores_optional strict_string restores_string)).seq
    (restores_optional strict_string restores_string)).seq
    (restores_finite "textFillAlpha" l.textFillAlpha)).seq
    (restores_optional strict_string restores_string)).seq
    (restores_finite "actorFillAlpha" l.actorFillAlpha)

theorem Image.restores (i : Image) : spec.Restores i.fields i.kept :=
  (((restores_field (restores_string i.key)).map _).seq (restores_finite "x" i.x)).seq
    (restores_finite "y" i.y)

theorem Background.restores (b : Background) : record.fields.Restores b.fields b.kept :=
  (b.toImage.restores.map _).seq (restores_optional strict_string restores_string)

theorem WebLink.restores (l : WebLink) : record.fields.Restores l.fields l :=
  (((restores_field (restores_string l.url)).map _).seq
    (restores_optional strict_string restores_string)).seq
    (restores_optional strict_string restores_string)

theorem SceneJump.restores {j : SceneJump} (h : ∀ data, j.data = some data → data.IsPayload) :
    record.fields.Restores j.fields j := by
  refine ((restores_field (restores_string j.key)).map _).seq (restores_present ?_ id)
  intro data some
  rw [some]
  exact (h data some).restores

theorem SoundCue.restores (c : SoundCue) : record.fields.Restores
    (Json.field "key" c.key ++ Json.field "loop" c.looping) c :=
  ((restores_field (restores_string c.key)).map _).seq (restores_field (restores_bool c.looping))

theorem keyRecord_restores (title key : String) :
    (keyRecord title).fields.Restores (Json.field "key" key) key :=
  restores_field (restores_string key)

/-- A payload is in the form in which payloads are held. -/
def Event.Held (e : Event) : Prop :=
  ∀ jump data, e = .sceneTransition jump → jump.data = some data → data.IsPayload

theorem Event.restores {e : Event} (held : e.Held) : decoder.Restores e e.kept := by
  cases e with
  | dialog line =>
    exact Tagged.restores rfl rfl (by decide) (by decide) (line.restores.map _)
  | setBackground image =>
    exact Tagged.restores rfl rfl (by decide) (by decide) (image.restores.map _)
  | setFrame image =>
    exact Tagged.restores rfl rfl (by decide) (by decide) (image.restores.map _)
  | addForeground image =>
    exact Tagged.restores rfl rfl (by decide) (by decide) (image.restores.map _)
  | timelineTransition key =>
    exact Tagged.restores rfl rfl (by decide) (by decide) ((keyRecord_restores _ key).map _)
  | sceneTransition jump =>
    have payload := SceneJump.restores (j := jump) fun data some => held jump data rfl some
    exact Tagged.restores rfl rfl (by decide) (by decide) (payload.map _)
  | choice options =>
    exact Tagged.restores rfl rfl (by decide) (by decide) ((choicesRecord_restores options).map _)
  | multiChoice set =>
    exact Tagged.restores rfl rfl (by decide) (by decide) (set.restores.map _)
  | showWebLink link =>
    exact Tagged.restores rfl rfl (by decide) (by decide) (link.restores.map _)
  | playSound cue =>
    exact Tagged.restores rfl rfl (by decide) (by decide) (cue.restores.map _)
  | clearSound key =>
    exact Tagged.restores rfl rfl (by decide) (by decide) ((keyRecord_restores _ key).map _)
  | clearDialog | clearBackground | clearForeground | hideWebLink | unknown =>
    exact fun _ => rfl

def Registry.Held (r : Registry) : Prop :=
  ∀ entry ∈ r.timelines.entries, ∀ e ∈ entry.2, e.Held

theorem Registry.restores {r : Registry} (held : r.Held) :
    record.decoder.Restores r r.kept := by
  have strings (m : Dict String) : Decoder.string.dict.Restores m m := by
    have same := Decoder.Restores.dict (f := id) fun e (_ : e ∈ m.entries) => restores_string e.2
    rwa [Dict.map_eq_self_iff.2 fun _ _ => rfl] at same
  have timelines : Timeline.decoder.dict.Restores r.timelines r.kept.timelines :=
    Decoder.Restores.dict fun entry mem => Decoder.Restores.list fun e inside =>
      Event.restores (held entry mem e inside)
  exact Record.decoder_restores rfl (by decide) <|
    (((restores_field timelines).map _).seq (restores_field (strings r.images))).seq
      (restores_field (strings r.audio))

theorem Snapshot.restores (s : Snapshot) : record.decoder.Restores s s := by
  have key : Decoder.string.option.Restores s.timelineKey s.timelineKey := by
    cases s.timelineKey with
    | none => exact fun _ => rfl
    | some key => exact fun _ => rfl
  exact Record.decoder_restores rfl (by decide) <|
    ((restores_field key).map _).seq (restores_field (restores_index s.index))

theorem filter_finite_eq_self_iff {o : Option Float32} :
    o.filter (·.isFinite) = o ↔ ∀ x, o = some x → x.isFinite = true := by
  cases o <;> simp [Option.filter]

theorem Image.kept_eq_self_iff {i : Image} :
    i.kept = i ↔ ∀ x, .single x ∈ fieldsNumbers i.fields → x.isFinite = true := by
  cases i
  simp [kept, fields, filter_finite_eq_self_iff, or_imp, forall_and]

theorem Background.kept_eq_self_iff {b : Background} :
    b.kept = b ↔ ∀ x, .single x ∈ fieldsNumbers b.fields → x.isFinite = true := by
  cases b
  simp [kept, fields, Image.kept_eq_self_iff]

theorem DialogLine.kept_eq_self_iff {l : DialogLine} :
    l.kept = l ↔ ∀ x, .single x ∈ fieldsNumbers l.fields → x.isFinite = true := by
  cases l
  simp [kept, fields, filter_finite_eq_self_iff, or_imp, forall_and]

theorem Event.mem_numbers {e : Event} {n : Number} :
    n ∈ (encode e).numbers ↔ n ∈ fieldsNumbers e.fields := by
  change n ∈ fieldsNumbers (field "event" e.tag ++ e.fields) ↔ _
  simp

theorem Choice.mem_numbers {c : Choice} {n : Number} : n ∈ (encode c).numbers ↔ False := by
  change n ∈ fieldsNumbers (field "text" c.text ++ field "key" c.key) ↔ _
  simp

theorem MultiChoice.single_not_mem (c : MultiChoice) (x : Float32) :
    .single x ∉ (encode c).numbers := by
  change .single x ∉ fieldsNumbers c.fields
  cases flag : c.contraindication <;> simp [fields, flag]

theorem SceneJump.single_not_mem {j : SceneJump} (h : ∀ data, j.data = some data → data.IsPayload)
    (x : Float32) : .single x ∉ fieldsNumbers j.fields := by
  intro mem
  simp only [fields, Json.mem_numbers_append, Json.mem_numbers_field, Json.mem_numbers_string,
    Json.mem_numbers_present, false_or] at mem
  obtain ⟨data, some, inside⟩ := mem
  exact (h data some).double x inside

/-- An event is kept as it is when no number of it in single precision is lost. -/
theorem Event.kept_eq_self_iff {e : Event} (held : e.Held) :
    e.kept = e ↔ ∀ x, .single x ∈ (encode e).numbers → x.isFinite = true := by
  simp only [mem_numbers]
  cases e with
  | dialog line => simp [kept, fields, DialogLine.kept_eq_self_iff]
  | setBackground image => simp [kept, fields, Background.kept_eq_self_iff]
  | setFrame image => simp [kept, fields, Image.kept_eq_self_iff]
  | addForeground image => simp [kept, fields, Image.kept_eq_self_iff]
  | sceneTransition jump =>
    simp [kept, fields, SceneJump.single_not_mem fun data some => held jump data rfl some]
  | multiChoice set =>
    simp [kept, fields, MultiChoiceSet.fields, MultiChoice.single_not_mem]
  | choice => simp [kept, fields, Choice.mem_numbers]
  | showWebLink link => simp [kept, fields, WebLink.fields]
  | timelineTransition | playSound | clearSound | clearDialog | clearBackground
  | clearForeground | hideWebLink | unknown => simp [kept, fields]

theorem Registry.mem_numbers {r : Registry} {n : Number} :
    n ∈ (encode r).numbers ↔
      ∃ entry ∈ r.timelines.entries, ∃ e ∈ entry.2, n ∈ (encode e).numbers := by
  change n ∈ fieldsNumbers (field "timelines" r.timelines ++ field "images" r.images
    ++ field "audio" r.audio) ↔ _
  simp

theorem Registry.kept_eq_self_iff {r : Registry} (held : r.Held) :
    r.kept = r ↔ ∀ x, .single x ∈ (encode r).numbers → x.isFinite = true := by
  have events : r.kept = r ↔ ∀ entry ∈ r.timelines.entries, ∀ e ∈ entry.2, e.kept = e := by
    have lists (es : List Event) : es.map Event.kept = es ↔ ∀ e ∈ es, e.kept = e := by
      simpa using List.map_inj_left (f := Event.kept) (g := id) (l := es)
    obtain ⟨timelines, images, audio⟩ := r
    simp only [kept, mk.injEq, and_true, Dict.map_eq_self_iff, lists]
  rw [events]
  simp only [mem_numbers]
  constructor
  · rintro same x ⟨entry, mem, e, inside, single⟩
    exact (Event.kept_eq_self_iff (held entry mem e inside)).1 (same entry mem e inside) x single
  · intro finite entry mem e inside
    exact (Event.kept_eq_self_iff (held entry mem e inside)).2 fun x single =>
      finite x ⟨entry, mem, e, inside, single⟩

end VisualNovel
