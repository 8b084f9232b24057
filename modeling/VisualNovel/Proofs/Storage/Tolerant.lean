import VisualNovel.Config
import VisualNovel.Event.Format
import VisualNovel.Lint.Config
import VisualNovel.Proofs.Json.Rearranged

namespace VisualNovel

open Json (Cause Decoder Elements Fields Node Objects Record)

variable {lax : Prop}

namespace Json

/-- Nothing is alike anything. -/
def never (_ _ : Json) : Prop := False

namespace Fields

variable {α : Type} {d : Decoder α} {name : String} {aliases : List String}
  {alike : String → Json → Json → Prop}

theorem keeps_needed {absent : Except Cause α} (keeps : d.Keeps lax (alike name)) :
    (one name aliases .required d absent).Keeps lax alike :=
  keeps_one keeps fun spare => (spare rfl).elim

theorem keeps_spare {default : α} (keeps : d.Keeps lax (alike name)) :
    (one name aliases .defaulted d (.ok default)).Keeps lax alike :=
  keeps_one keeps fun _ => ⟨default, rfl⟩

theorem plain_needed {absent : Except Cause α} (h : alike name = never) :
    (one name aliases .required d absent).Keeps lax alike :=
  keeps_needed fun _ _ _ same => (h ▸ same : never _ _).elim

theorem plain_spare {default : α} (h : alike name = never) :
    (one name aliases .defaulted d (.ok default)).Keeps lax alike :=
  keeps_spare fun _ _ _ same => (h ▸ same : never _ _).elim

end Fields

end Json

open Json.Fields (accepts_fine accepts_one keeps_needed keeps_spare plain_needed plain_spare)
open Json.Decoder (coherent_scalar coherent_natural)
open Json (never)

namespace GateLayout

theorem keeps : record.Keeps lax fun _ => never :=
  ⟨rfl, by decide, .seq (.seq (.seq (.seq (.seq (.seq (.seq (.map (plain_spare rfl) _)
    (plain_spare rfl)) (plain_spare rfl)) (plain_spare rfl)) (plain_spare rfl)) (plain_spare rfl))
    (plain_spare rfl)) (plain_spare rfl)⟩

theorem accepts : record.fields.Accepts fun _ => Node.Fine :=
  .seq (.seq (.seq (.seq (.seq (.seq (.seq (.map (accepts_fine (coherent_scalar _) rfl) _)
    (accepts_fine (coherent_scalar _) rfl)) (accepts_fine (coherent_scalar _) rfl))
    (accepts_fine (coherent_scalar _) rfl)) (accepts_fine (coherent_scalar _) rfl))
    (accepts_fine (coherent_scalar _) rfl)) (accepts_fine (coherent_scalar _) rfl))
    (accepts_fine (coherent_scalar _) rfl)

end GateLayout

namespace Config

/-- The layout may be written another way. -/
def Alike (lax : Prop) : String → Json → Json → Prop
  | "layout" => Objects (GateLayout.record.Rearranged lax fun _ => never)
  | _ => never

theorem keeps : record.Keeps lax (Alike lax) :=
  ⟨rfl, by decide, .seq (.seq (.seq (.seq (.seq (.map (plain_spare rfl) _) (plain_spare rfl))
    (plain_spare rfl)) (plain_spare rfl)) (keeps_spare GateLayout.keeps.decoder)) (plain_spare rfl)⟩

/-- What is known of the settings and of the layout has to be without faults. -/
def form : String → Nat → Node → Prop
  | "layout" => GateLayout.record.Formed fun _ => Node.Fine
  | _ => Node.Fine

theorem form_of_fine (name : String) (depth : Nat) (node : Node) (fine : node.Fine depth) :
    form name depth node := by
  unfold form
  split
  · exact Record.formed_of_fine (fun _ _ _ fine => fine) fine
  · exact fine

theorem accepts : record.fields.Accepts form :=
  .seq (.seq (.seq (.seq (.seq (.map (accepts_fine (coherent_scalar _) rfl) _)
    (accepts_fine (coherent_scalar _) rfl)) (accepts_fine (coherent_natural _ _) rfl))
    (accepts_fine (coherent_natural _ _) rfl))
    (accepts_one fun _ _ _ => Record.inspect_of_form GateLayout.accepts fun _ _ _ fine => fine))
    (accepts_fine (coherent_natural _ _).option rfl)

end Config

namespace Lint

theorem ReferencesConfig.keeps : record.Keeps lax fun _ => never :=
  ⟨rfl, by decide, .seq (.seq (.map (plain_spare rfl) _) (plain_spare rfl)) (plain_spare rfl)⟩

theorem ReferencesConfig.accepts : record.fields.Accepts fun _ => Node.Fine :=
  .seq (.seq (.map (accepts_fine (coherent_scalar _) rfl) _)
    (accepts_fine (coherent_scalar _) rfl)) (accepts_fine (coherent_scalar _) rfl)

theorem QualityConfig.keeps : record.Keeps lax fun _ => never :=
  ⟨rfl, by decide, .seq (.map (plain_spare rfl) _) (plain_spare rfl)⟩

theorem QualityConfig.accepts : record.fields.Accepts fun _ => Node.Fine :=
  .seq (.map (accepts_fine (coherent_scalar _) rfl) _) (accepts_fine (coherent_natural _ _) rfl)

theorem FlowConfig.keeps : record.Keeps lax fun _ => never :=
  ⟨rfl, by decide, .seq (.seq (.map (plain_spare rfl) _) (plain_spare rfl)) (plain_spare rfl)⟩

theorem FlowConfig.accepts : record.fields.Accepts fun _ => Node.Fine :=
  .seq (.seq (.map (accepts_fine (coherent_scalar _) rfl) _)
    (accepts_fine (coherent_scalar _) rfl)) (accepts_fine (coherent_scalar _) rfl)

namespace Config

def Alike (lax : Prop) : String → Json → Json → Prop
  | "references" => Objects (ReferencesConfig.record.Rearranged lax fun _ => never)
  | "quality" => Objects (QualityConfig.record.Rearranged lax fun _ => never)
  | "flow" => Objects (FlowConfig.record.Rearranged lax fun _ => never)
  | _ => never

theorem keeps : record.Keeps lax (Alike lax) :=
  ⟨rfl, by decide, .seq (.seq (.map (keeps_spare ReferencesConfig.keeps.decoder) _)
    (keeps_spare QualityConfig.keeps.decoder)) (keeps_spare FlowConfig.keeps.decoder)⟩

def form : String → Nat → Node → Prop
  | "references" => ReferencesConfig.record.Formed fun _ => Node.Fine
  | "quality" => QualityConfig.record.Formed fun _ => Node.Fine
  | "flow" => FlowConfig.record.Formed fun _ => Node.Fine
  | _ => Node.Fine

theorem form_of_fine (name : String) (depth : Nat) (node : Node) (fine : node.Fine depth) :
    form name depth node := by
  unfold form
  split
  · exact Record.formed_of_fine (fun _ _ _ fine => fine) fine
  · exact Record.formed_of_fine (fun _ _ _ fine => fine) fine
  · exact Record.formed_of_fine (fun _ _ _ fine => fine) fine
  · exact fine

theorem accepts : record.fields.Accepts form :=
  .seq (.seq (.map (accepts_one fun _ _ _ =>
      Record.inspect_of_form ReferencesConfig.accepts fun _ _ _ fine => fine) _)
    (accepts_one fun _ _ _ => Record.inspect_of_form QualityConfig.accepts fun _ _ _ fine => fine))
    (accepts_one fun _ _ _ => Record.inspect_of_form FlowConfig.accepts fun _ _ _ fine => fine)

end Config

end Lint

theorem Choice.keeps : record.Keeps lax fun _ => never :=
  ⟨rfl, by decide, .seq (.map (plain_needed rfl) _) (plain_needed rfl)⟩

theorem MultiChoice.keeps : record.Keeps lax fun _ => never :=
  ⟨rfl, by decide, .seq (.seq (.seq (.map (plain_needed rfl) _) (plain_needed rfl))
    (plain_spare rfl)) (plain_spare rfl)⟩

namespace Event

def Alike (lax : Prop) : String → String → Json → Json → Prop
  | "choice", "choices" => Elements (Objects (Choice.record.Rearranged lax fun _ => never))
  | "multi_choice", "choices" =>
    Elements (Objects (MultiChoice.record.Rearranged lax fun _ => never))
  | _, _ => never

end Event

theorem choicesRecord_keeps : choicesRecord.Keeps lax (Event.Alike lax "choice") :=
  ⟨rfl, by decide, keeps_needed Choice.keeps.decoder.list⟩

theorem MultiChoiceSet.keeps : record.Keeps lax (Event.Alike lax "multi_choice") :=
  ⟨rfl, by decide, .seq (.seq (.seq (.seq (.seq
    (.map (keeps_needed MultiChoice.keeps.decoder.list) _) (plain_needed rfl)) (plain_needed rfl))
    (plain_spare rfl)) (plain_spare rfl)) (plain_spare rfl)⟩

theorem DialogLine.keeps : record.Keeps lax fun _ => never :=
  ⟨rfl, by decide, .seq (.seq (.seq (.seq (.seq (.map (plain_needed rfl) _) (plain_spare rfl))
    (plain_spare rfl)) (plain_spare rfl)) (plain_spare rfl)) (plain_spare rfl)⟩

theorem Image.keeps : spec.Keeps lax fun _ => never :=
  .seq (.seq (.map (plain_needed rfl) _) (plain_spare rfl)) (plain_spare rfl)

theorem Background.keeps : record.Keeps lax fun _ => never :=
  ⟨rfl, by decide, .seq (.map Image.keeps _) (plain_spare rfl)⟩

theorem WebLink.keeps : record.Keeps lax fun _ => never :=
  ⟨rfl, by decide, .seq (.seq (.map (plain_needed rfl) _) (plain_spare rfl)) (plain_spare rfl)⟩

theorem keyRecord_keeps (title : String) : (keyRecord title).Keeps lax fun _ => never :=
  have distinct : (Fields.required "key" Decoder.string).Distinct := by decide
  ⟨rfl, distinct, plain_needed rfl⟩

theorem SceneJump.keeps : record.Keeps lax fun _ => never :=
  ⟨rfl, by decide, .seq (.map (plain_needed rfl) _) (plain_spare rfl)⟩

theorem SoundCue.keeps : record.Keeps lax fun _ => never :=
  ⟨rfl, by decide, .seq (.map (plain_needed rfl) _) (plain_spare rfl)⟩

namespace Event

theorem keeps (tag : String) (r : Record Event) (known : format.payload tag = .ok (.record r)) :
    r.Keeps lax (Alike lax tag) := by
  have known : payload tag = .record r := Except.ok.inj known
  unfold payload at known
  split at known
  all_goals cases known
  · exact DialogLine.keeps.map _
  · exact Background.keeps.map _
  · exact ⟨rfl, by decide, Image.keeps.map _⟩
  · exact ⟨rfl, by decide, Image.keeps.map _⟩
  · exact (keyRecord_keeps _).map _
  · exact SceneJump.keeps.map _
  · exact choicesRecord_keeps.map _
  · exact MultiChoiceSet.keeps.map _
  · exact WebLink.keeps.map _
  · exact SoundCue.keeps.map _
  · exact (keyRecord_keeps _).map _

end Event

end VisualNovel
