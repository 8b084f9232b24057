import Mathlib.Algebra.Order.Field.Rat
import Mathlib.Tactic.Linarith
import Mathlib.Tactic.Ring
import VisualNovel.Gate.Basic

namespace VisualNovel

instance : Scalar ℚ where
  ofNat n := n
  half := 1 / 2
  max := max

namespace Box

def left (b : Box ℚ) : ℚ := b.center.x - b.extent.width / 2

def right (b : Box ℚ) : ℚ := b.center.x + b.extent.width / 2

def top (b : Box ℚ) : ℚ := b.center.y - b.extent.height / 2

def bottom (b : Box ℚ) : ℚ := b.center.y + b.extent.height / 2

/-- The point lies in the box, or on the edge of it. -/
structure Covers (b : Box ℚ) (p : Point ℚ) : Prop where
  left : b.left ≤ p.x
  right : p.x ≤ b.right
  top : b.top ≤ p.y
  bottom : p.y ≤ b.bottom

def Overlaps (a b : Box ℚ) : Prop := ∃ p, a.Covers p ∧ b.Covers p

theorem not_overlaps_of_above {a b : Box ℚ} (above : a.bottom < b.top) : ¬ a.Overlaps b := by
  rintro ⟨p, inside, inside'⟩
  have between : b.top ≤ a.bottom := inside'.top.trans inside.bottom
  exact absurd above (not_lt.2 between)

/-- The numbers that tell where a box is and how great. -/
def measures (b : Box ℚ) : List ℚ := [b.center.x, b.center.y, b.extent.width, b.extent.height]

end Box

def standardCanvas : Extent ℚ := ⟨960, 800⟩

namespace GateLayout

/-- How far down the first of so many options begins. -/
def standardTop (count : ℕ) : ℚ := max (225 - 45 * count) 20

theorem standardTop_of_le {count : ℕ} (few : count ≤ 4) : standardTop count = 225 - 45 * count := by
  have few : (count : ℚ) ≤ 4 := mod_cast few
  exact max_eq_left (by linarith)

theorem standardTop_of_lt {count : ℕ} (many : 4 < count) : standardTop count = 20 := by
  have many : (5 : ℚ) ≤ count := mod_cast many
  exact max_eq_right (by linarith)

theorem optionBox_standard (count index : ℕ) :
    (default : GateLayout ℚ).optionBox standardCanvas count index =
      ⟨⟨480, standardTop count + 90 * index + 40⟩, ⟨940, 80⟩⟩ := by
  have top : (800 / 2 - (80 * count + 10 * (count - 1)) / 2 - 180 : ℚ) = 225 - 45 * count := by ring
  simp only [optionBox, default, standardCanvas, stacked, groupHeight, Scalar.ofNat, Scalar.half,
    Scalar.max]
  push_cast
  rw [top, ← standardTop]
  congr 2 <;> ring

theorem confirmBox_standard : (default : GateLayout ℚ).confirmBox standardCanvas =
    ⟨⟨480, 580⟩, ⟨240, 40⟩⟩ := by
  simp only [confirmBox, default, standardCanvas, Scalar.ofNat, Scalar.max]
  norm_num

theorem optionBox_above (count : ℕ) {index later : ℕ} (before : index < later) :
    ((default : GateLayout ℚ).optionBox standardCanvas count index).bottom <
      ((default : GateLayout ℚ).optionBox standardCanvas count later).top := by
  have before : (index : ℚ) + 1 ≤ later := mod_cast before
  rw [optionBox_standard, optionBox_standard]
  simp only [Box.bottom, Box.top]
  linarith

/-- Up to six options end above the button that confirms. -/
theorem optionBox_above_confirmBox {count index : ℕ} (few : count ≤ 6) (inside : index < count) :
    ((default : GateLayout ℚ).optionBox standardCanvas count index).bottom <
      ((default : GateLayout ℚ).confirmBox standardCanvas).top := by
  have inside : (index : ℚ) + 1 ≤ count := mod_cast inside
  rw [optionBox_standard, confirmBox_standard]
  simp only [Box.bottom, Box.top]
  -- four options or less are centered; those of more begin as far up as they may
  obtain many | centered := Nat.lt_or_ge 4 count
  · have few : (count : ℚ) ≤ 6 := mod_cast few
    rw [standardTop_of_lt many]
    linarith
  · have few : (count : ℚ) ≤ 4 := mod_cast centered
    rw [standardTop_of_le centered]
    linarith

/-- The seventh option lies over the middle of the button that confirms. -/
theorem seventh_overlaps_confirmBox {count : ℕ} (many : 7 ≤ count) :
    ((default : GateLayout ℚ).optionBox standardCanvas count 6).Overlaps
      ((default : GateLayout ℚ).confirmBox standardCanvas) := by
  rw [optionBox_standard, confirmBox_standard, standardTop_of_lt (by omega)]
  refine ⟨⟨480, 580⟩, ?_, ?_⟩ <;> constructor <;>
    norm_num [Box.left, Box.right, Box.top, Box.bottom]

/-- A number that single precision holds exactly: a multiple of five of no more than 24 bits. -/
def IsShort (v : ℚ) : Prop := ∃ k : ℕ, v = 5 * k ∧ 5 * k < 2 ^ 24

theorem exists_standardTop (count : ℕ) : ∃ k : ℕ, standardTop count = 5 * k ∧ k ≤ 45 := by
  obtain many | centered := Nat.lt_or_ge 4 count
  · exact ⟨4, by rw [standardTop_of_lt many]; norm_num, by decide⟩
  · refine ⟨45 - 9 * count, ?_, Nat.sub_le _ _⟩
    rw [standardTop_of_le centered, Nat.cast_sub (by omega)]
    push_cast
    ring

theorem isShort_optionBox {count index : ℕ} (inside : index < count) (few : count ≤ 10 ^ 4) :
    ∀ v ∈ ((default : GateLayout ℚ).optionBox standardCanvas count index).measures, IsShort v := by
  obtain ⟨k, top, small⟩ := exists_standardTop count
  rw [optionBox_standard, top]
  simp only [Box.measures, List.forall_mem_cons, List.not_mem_nil, false_imp_iff, implies_true,
    and_true]
  refine ⟨⟨96, by norm_num⟩, ⟨k + 18 * index + 8, ?_, by omega⟩, ⟨188, by norm_num⟩,
    ⟨16, by norm_num⟩⟩
  push_cast
  ring

theorem isShort_confirmBox :
    ∀ v ∈ ((default : GateLayout ℚ).confirmBox standardCanvas).measures, IsShort v := by
  rw [confirmBox_standard]
  simp only [Box.measures, List.forall_mem_cons, List.not_mem_nil, false_imp_iff, implies_true,
    and_true]
  exact ⟨⟨96, by norm_num⟩, ⟨116, by norm_num⟩, ⟨48, by norm_num⟩, ⟨8, by norm_num⟩⟩

end GateLayout

namespace Gate.Multi

/-- The boxes of the options in the order in which they are shown. -/
def optionBoxes {α : Type} [Scalar α] (g : Multi) (layout : GateLayout α) (canvas : Extent α) :
    List (Box α) := (List.range g.order.length).map (layout.optionBox canvas g.order.length)

theorem buttons_boxes (g : Multi) (layout : GateLayout Float32) (canvas : CanvasSize) :
    (g.buttons layout canvas).map Button.box =
      g.optionBoxes layout canvas ++ [layout.confirmBox canvas] := by
  simp only [buttons, optionBoxes, List.map_append, List.map_map, List.map_singleton,
    List.range_eq_range', ← List.zipIdx_map_snd]
  rfl

variable {g : Multi} {b : Box ℚ}

theorem mem_optionBoxes_standard : b ∈ g.optionBoxes .default standardCanvas ↔
    ∃ index < g.order.length,
      GateLayout.default.optionBox standardCanvas g.order.length index = b := by
  simp [optionBoxes]

theorem pairwise_optionBoxes (g : Multi) :
    (g.optionBoxes .default standardCanvas).Pairwise fun a b => ¬ a.Overlaps b := by
  refine List.pairwise_map.2 (List.pairwise_lt_range.imp fun before => ?_)
  exact Box.not_overlaps_of_above (GateLayout.optionBox_above _ before)

/-- The buttons of a gate stand where the boxes are. No option is over another, and none is over the
button that confirms exactly when there are no more than six. With up to ten thousand options single
precision has all the numbers exactly. -/
theorem confirm_clear_iff (g : Multi) :
    (∀ layout canvas, (g.buttons layout canvas).map Button.box =
        g.optionBoxes layout canvas ++ [layout.confirmBox canvas]) ∧
      (g.optionBoxes .default standardCanvas).Pairwise (fun a b => ¬ a.Overlaps b) ∧
      ((∀ b ∈ g.optionBoxes .default standardCanvas,
          ¬ b.Overlaps (GateLayout.default.confirmBox standardCanvas)) ↔ g.order.length ≤ 6) ∧
      (g.order.length ≤ 10 ^ 4 →
        ∀ b ∈ g.optionBoxes .default standardCanvas ++
            [GateLayout.default.confirmBox standardCanvas],
          ∀ v ∈ b.measures, GateLayout.IsShort v) := by
  refine ⟨buttons_boxes g, pairwise_optionBoxes g, ⟨fun clear => ?_, fun few b mem => ?_⟩, ?_⟩
  · by_contra many
    have seventh : GateLayout.default.optionBox standardCanvas g.order.length 6 ∈
        g.optionBoxes .default standardCanvas :=
      mem_optionBoxes_standard.2 ⟨6, by omega, rfl⟩
    exact clear _ seventh (GateLayout.seventh_overlaps_confirmBox (by omega))
  · obtain ⟨index, inside, rfl⟩ := mem_optionBoxes_standard.1 mem
    exact Box.not_overlaps_of_above (GateLayout.optionBox_above_confirmBox few inside)
  · intro few b mem
    obtain option | confirm := List.mem_append.1 mem
    · obtain ⟨index, inside, rfl⟩ := mem_optionBoxes_standard.1 option
      exact GateLayout.isShort_optionBox inside few
    · obtain rfl := List.mem_singleton.1 confirm
      exact GateLayout.isShort_confirmBox

def sevenWonders : MultiChoiceSet where
  choices := ["Pyramid", "Gardens", "Statue", "Temple", "Tomb", "Colossus", "Lighthouse"].map
    (⟨·, true, false, none⟩)
  correctKey := "right"
  incorrectKey := "wrong"

/-- The last of seven options lies over the button that confirms, also in single precision. -/
theorem seventh_option_over_confirm :
    (∃ b ∈ (ofSet sevenWonders).optionBoxes .default standardCanvas,
        b.Overlaps (GateLayout.default.confirmBox standardCanvas)) ∧
      ((ofSet sevenWonders).buttons .default defaultCanvas).map
        (fun b => (b.role, b.box.center.y, b.box.extent.height)) =
        [(.toggle, 60, 80), (.toggle, 150, 80), (.toggle, 240, 80), (.toggle, 330, 80),
          (.toggle, 420, 80), (.toggle, 510, 80), (.toggle, 600, 80), (.confirm, 580, 40)] := by
  refine ⟨⟨_, mem_optionBoxes_standard.2 ⟨6, by decide, rfl⟩, ?_⟩, by decide +kernel⟩
  exact GateLayout.seventh_overlaps_confirmBox (by decide)

end Gate.Multi

end VisualNovel
