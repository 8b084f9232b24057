import VisualNovel.Proofs.Lint.Flow
import VisualNovel.Proofs.Lint.References
import VisualNovel.Proofs.Playback.Provenance

namespace VisualNovel

namespace Lint

/-- The quality of events is checked, and nothing worse than a hint is found. -/
structure QualityClean (config : Config) (r : Registry) : Prop where
  enabled : config.quality.enabled = true
  mild : ∀ i ∈ (check config r).issues, i.finding.category = "quality" →
    i.level ≠ .error ∧ i.level ≠ .warning

/-- Of an event nothing worse than a hint is found. -/
def Acceptable (maxTextLength : Nat) (e : Event) : Prop :=
  ∀ f ∈ checkQuality maxTextLength e, f.level = .info

theorem QualityClean.acceptable {config : Config} {r : Registry} (clean : QualityClean config r)
    {name : String} {timeline : Timeline} (found : r.find? name = some timeline) {e : Event}
    (mem : e ∈ timeline) : Acceptable config.quality.maxTextLength e := by
  intro f told
  obtain ⟨index, placed⟩ := mem_inEvents found mem told
  have listed : ⟨f, name, some index⟩ ∈ (check config r).issues := by
    simp [check, onlyIf, clean.enabled, placed]
  obtain ⟨no_error, no_warning⟩ := clean.mild _ listed (category_of_checkQuality told)
  cases level : f.level with
  | error => exact (no_error level).elim
  | warning => exact (no_warning level).elim
  | info => rfl

variable {maxTextLength : Nat} {e : Event}

theorem Acceptable.ne_unknown (h : Acceptable maxTextLength e) : e ≠ .unknown := by
  rintro rfl
  have hint := h .unknownEvent (List.mem_singleton.2 rfl)
  cases hint

/-- A gate that is not complained about has no button that leads nowhere. -/
theorem Acceptable.named (h : Acceptable maxTextLength e) {g : Gate} (opens : e.Opens g) :
    "" ∉ g.destinations := by
  rw [Gate.destinations_of_opens opens]
  intro unnamed
  cases opens with
  | @choice options nonempty =>
    obtain ⟨choice, mem, empty⟩ := List.mem_map.1 unnamed
    have found : .emptyChoiceKey ∈ checkQuality maxTextLength (.choice options) := by
      refine List.mem_append_right _ (mem_when.2 ⟨?_, rfl⟩)
      exact List.any_eq_true.2 ⟨choice, mem, by simp [empty]⟩
    cases h _ found
  | @multiChoice set order nonempty perm =>
    have found : .emptyDestination ∈ checkQuality maxTextLength (.multiChoice set) := by
      refine List.mem_append_right _ (mem_when.2 ⟨?_, rfl⟩)
      simp only [Event.destinations, List.mem_cons, List.not_mem_nil, or_false] at unnamed
      obtain correct | incorrect := unnamed
      · simp [← correct]
      · simp [← incorrect]
    cases h _ found

end Lint

end VisualNovel
