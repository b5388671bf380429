import WidgetLocator.Viewport
import Mathlib.Tactic.Common

namespace WidgetLocator

namespace ClickObservation

/-- Two clicks in a window of the same size, scrolled alike and at the same place on the screen. -/
structure SameWindow (a b : ClickObservation) : Prop where
  width : a.windowWidth = b.windowWidth
  height : a.windowHeight = b.windowHeight
  scrollX : a.scrollX = b.scrollX
  scrollY : a.scrollY = b.scrollY
  screenX : a.screenX.toInt - a.clientX.toInt = b.screenX.toInt - b.clientX.toInt
  screenY : a.screenY.toInt - a.clientY.toInt = b.screenY.toInt - b.clientY.toInt

/-- No place on the page is reported. -/
def Unreported (click : ClickObservation) : Prop :=
  click.pageX = 0 ∧ click.pageY = 0

/-- The click is at the corner of the client area. -/
def AtCorner (click : ClickObservation) : Prop :=
  click.clientX = 0 ∧ click.clientY = 0

instance (click : ClickObservation) : Decidable click.AtCorner :=
  inferInstanceAs (Decidable (_ ∧ _))

/-- The window is scrolled neither to the side nor down. -/
def Unscrolled (click : ClickObservation) : Prop :=
  click.scrollX = 0 ∧ click.scrollY = 0

/-- An integer of signed 64 bits. -/
def Fits (n : Int) : Prop :=
  Int64.minValue.toInt ≤ n ∧ n ≤ Int64.maxValue.toInt

instance (n : Int) : Decidable (Fits n) :=
  inferInstanceAs (Decidable (_ ∧ _))

/-- No sum overflows: neither the place on the page nor the origin that follows from it. -/
structure NoOverflow (click : ClickObservation) : Prop where
  pageX : Fits (click.clientX.toInt + click.scrollX.toInt)
  pageY : Fits (click.clientY.toInt + click.scrollY.toInt)
  originX : Fits (click.screenX.toInt - (click.clientX.toInt + click.scrollX.toInt))
  originY : Fits (click.screenY.toInt - (click.clientY.toInt + click.scrollY.toInt))

variable {a b click : ClickObservation}

theorem toInt_sub_add {screen client scroll : Int64} (page : Fits (client.toInt + scroll.toInt))
    (origin : Fits (screen.toInt - (client.toInt + scroll.toInt))) :
    (screen - (client + scroll)).toInt = screen.toInt - client.toInt - scroll.toInt := by
  simp only [Fits, Int64.toInt_minValue, Int64.toInt_maxValue] at page origin
  have sum : (client + scroll).toInt = client.toInt + scroll.toInt := by
    rw [Int64.toInt_add]
    exact Int.bmod_eq_of_le (by omega) (by omega)
  rw [Int64.toInt_sub, sum, Int.bmod_eq_of_le (by omega) (by omega)]
  omega

theorem pagePosition_of_corner (unreported : click.Unreported) (corner : click.AtCorner) :
    click.pagePosition = (0, 0) := by
  simp [pagePosition, unreported.1, unreported.2, corner.1, corner.2]

theorem pagePosition_of_not_corner (unreported : click.Unreported) (elsewhere : ¬click.AtCorner) :
    click.pagePosition = (click.clientX + click.scrollX, click.clientY + click.scrollY) := by
  have placed : click.clientX ≠ 0 ∨ click.clientY ≠ 0 := not_and_or.mp elsewhere
  have unknown : ¬(click.pageX ≠ 0 ∨ click.pageY ≠ 0) := by
    simp [unreported.1, unreported.2]
  rw [pagePosition, if_neg unknown, if_pos placed]

/-- In fixed width, too, the distance from the client area to the screen is the same. -/
theorem SameWindow.distance (same : SameWindow a b) :
    a.screenX - a.clientX = b.screenX - b.clientX ∧ a.screenY - a.clientY = b.screenY - b.clientY := by
  have horizontal := congrArg Int64.ofInt same.screenX
  have vertical := congrArg Int64.ofInt same.screenY
  simp only [Int64.ofInt_sub, Int64.ofInt_toInt] at horizontal vertical
  exact ⟨horizontal, vertical⟩

theorem SameWindow.symm (same : SameWindow a b) : SameWindow b a :=
  ⟨same.width.symm, same.height.symm, same.scrollX.symm, same.scrollY.symm, same.screenX.symm,
    same.screenY.symm⟩

theorem SameWindow.unscrolled_iff (same : SameWindow a b) : a.Unscrolled ↔ b.Unscrolled := by
  rw [Unscrolled, Unscrolled, same.scrollX, same.scrollY]

end ClickObservation

namespace ViewportGeometry

open ClickObservation

variable {a b click : ClickObservation}

theorem ofClick_of_corner (unreported : click.Unreported) (corner : click.AtCorner) :
    ofClick click = ⟨click.windowWidth, click.windowHeight, click.screenX, click.screenY⟩ := by
  simp [ofClick, pagePosition_of_corner unreported corner]

theorem ofClick_of_not_corner (unreported : click.Unreported) (elsewhere : ¬click.AtCorner) :
    ofClick click = ⟨click.windowWidth, click.windowHeight,
      click.screenX - (click.clientX + click.scrollX),
      click.screenY - (click.clientY + click.scrollY)⟩ := by
  rw [ofClick, pagePosition_of_not_corner unreported elsewhere]

theorem ofClick_eq_of_elsewhere (same : SameWindow a b) (ha : a.Unreported) (hb : b.Unreported)
    (elsewhere : ¬a.AtCorner) (elsewhere' : ¬b.AtCorner) : ofClick a = ofClick b := by
  obtain ⟨horizontal, vertical⟩ := same.distance
  have originX : a.screenX - (a.clientX + a.scrollX) = b.screenX - (b.clientX + b.scrollX) := by
    grind [same.scrollX]
  have originY : a.screenY - (a.clientY + a.scrollY) = b.screenY - (b.clientY + b.scrollY) := by
    grind [same.scrollY]
  rw [ofClick_of_not_corner ha elsewhere, ofClick_of_not_corner hb elsewhere', same.width, same.height,
    originX, originY]

theorem ofClick_eq_of_corners (same : SameWindow a b) (ha : a.Unreported) (hb : b.Unreported)
    (corner : a.AtCorner) (corner' : b.AtCorner) : ofClick a = ofClick b := by
  obtain ⟨horizontal, vertical⟩ := same.distance
  have originX : a.screenX = b.screenX := by
    grind [corner.1, corner'.1]
  have originY : a.screenY = b.screenY := by
    grind [corner.2, corner'.2]
  rw [ofClick_of_corner ha corner, ofClick_of_corner hb corner', same.width, same.height, originX,
    originY]

/-- A click at the corner shows the same as another one only if the window is not scrolled. -/
theorem ofClick_corner_eq_iff (same : SameWindow a b) (ha : a.Unreported) (hb : b.Unreported)
    (corner : a.AtCorner) (elsewhere : ¬b.AtCorner) : ofClick a = ofClick b ↔ a.Unscrolled := by
  obtain ⟨horizontal, vertical⟩ := same.distance
  have originX : a.screenX = b.screenX - (b.clientX + b.scrollX) ↔ a.scrollX = 0 := by
    grind [corner.1, same.scrollX]
  have originY : a.screenY = b.screenY - (b.clientY + b.scrollY) ↔ a.scrollY = 0 := by
    grind [corner.2, same.scrollY]
  rw [ofClick_of_corner ha corner, ofClick_of_not_corner hb elsewhere, mk.injEq, originX, originY]
  exact ⟨fun h => h.2.2, fun h => ⟨same.width, same.height, h⟩⟩

/-- Two clicks in one window show the same geometry, unless one of them only is at the corner of the client
area and the window is scrolled. The origin of the page lies where the client area lies, less the scroll
offsets; a click at the corner shows the client area itself. -/
theorem geometry_alike_iff :
    (∀ a b : ClickObservation, SameWindow a b → a.Unreported → b.Unreported →
      (ofClick a = ofClick b ↔ (a.AtCorner ↔ b.AtCorner) ∨ a.Unscrolled)) ∧
    ∀ click : ClickObservation, click.Unreported → click.NoOverflow →
      let geometry := ofClick click
      (¬click.AtCorner →
        geometry.originX.toInt =
          click.screenX.toInt - click.clientX.toInt - click.scrollX.toInt ∧
        geometry.originY.toInt =
          click.screenY.toInt - click.clientY.toInt - click.scrollY.toInt) ∧
      (click.AtCorner → geometry.originX = click.screenX ∧ geometry.originY = click.screenY) := by
  refine ⟨fun a b same ha hb => ?_, fun click unreported fits => ⟨fun elsewhere => ?_, fun corner => ?_⟩⟩
  · by_cases corner : a.AtCorner <;> by_cases corner' : b.AtCorner
    · simp [corner, corner', ofClick_eq_of_corners same ha hb corner corner']
    · simp [corner, corner', ofClick_corner_eq_iff same ha hb corner corner']
    · have swapped := ofClick_corner_eq_iff same.symm hb ha corner' corner
      rw [← same.unscrolled_iff, eq_comm] at swapped
      simp [corner, corner', swapped]
    · simp [corner, corner', ofClick_eq_of_elsewhere same ha hb corner corner']
  · rw [ofClick_of_not_corner unreported elsewhere]
    exact ⟨toInt_sub_add fits.pageX fits.originX, toInt_sub_add fits.pageY fits.originY⟩
  · rw [ofClick_of_corner unreported corner]
    exact ⟨rfl, rfl⟩

/-- In a scrolled window a click at the corner shows another origin than one beside it. -/
theorem geometry_differs_at_corner :
    let corner : ClickObservation := ⟨100, 200, 0, 0, 0, 0, 40, 20, 1024, 768⟩
    let beside : ClickObservation := ⟨110, 200, 10, 0, 0, 0, 40, 20, 1024, 768⟩
    SameWindow corner beside ∧ (corner.Unreported ∧ beside.Unreported) ∧
      (corner.NoOverflow ∧ beside.NoOverflow) ∧ ofClick corner ≠ ofClick beside := by
  intro corner beside
  refine ⟨⟨rfl, rfl, rfl, rfl, by decide, by decide⟩, ⟨⟨rfl, rfl⟩, ⟨rfl, rfl⟩⟩, ?_, by decide⟩
  constructor <;> constructor <;> decide

theorem geometry_alike_iff_below :
    let beside : ClickObservation := ⟨110, 200, 10, 0, 0, 0, 40, 20, 1024, 768⟩
    let below : ClickObservation := ⟨100, 207, 0, 7, 0, 0, 40, 20, 1024, 768⟩
    (SameWindow beside below ∧ beside.Unreported ∧ below.Unreported ∧
      ofClick beside = ofClick below) ∧
    below.NoOverflow ∧ ¬below.AtCorner ∧ (ofClick below).originX.toInt = 100 - 0 - 40 ∧
      (ofClick below).originY.toInt = 207 - 7 - 20 := by
  intro beside below
  have same : SameWindow beside below := ⟨rfl, rfl, rfl, rfl, by decide, by decide⟩
  have fits : below.NoOverflow := by constructor <;> decide
  have elsewhere : ¬below.AtCorner := by decide
  obtain ⟨alike, origins⟩ := geometry_alike_iff
  have shown := (alike beside below same ⟨rfl, rfl⟩ ⟨rfl, rfl⟩).mpr (.inl (by decide))
  exact ⟨⟨same, ⟨rfl, rfl⟩, ⟨rfl, rfl⟩, shown⟩, fits, elsewhere,
    (origins below ⟨rfl, rfl⟩ fits).1 elsewhere⟩

end ViewportGeometry

end WidgetLocator
