import WidgetLocator.Event.Parameters
import WidgetLocator.Source

namespace WidgetLocator

/-- Where a click was seen, in the coordinates of the screen, the client area and the page, and the
window at that time. Page coordinates are zero if they are not known. -/
structure ClickObservation where
  screenX : Int64
  screenY : Int64
  clientX : Int64
  clientY : Int64
  pageX : Int64
  pageY : Int64
  scrollX : Int64
  scrollY : Int64
  windowWidth : UInt32
  windowHeight : UInt32
deriving DecidableEq, Repr, Inhabited

/-- The place of a click on the page: as reported, or else from its place in the client area and
the scroll offsets, unless nothing is known of it. -/
def ClickObservation.pagePosition (click : ClickObservation) : Int64 × Int64 :=
  if click.pageX ≠ 0 ∨ click.pageY ≠ 0 then (click.pageX, click.pageY)
  else if click.clientX ≠ 0 ∨ click.clientY ≠ 0 then
    (click.clientX + click.scrollX, click.clientY + click.scrollY)
  else (0, 0)

/-- The size of a window, and the place of the page on the screen. -/
structure ViewportGeometry where
  width : UInt32
  height : UInt32
  originX : Int64
  originY : Int64
deriving DecidableEq, Repr, Inhabited

namespace ViewportGeometry

def ofClick (click : ClickObservation) : ViewportGeometry :=
  let (x, y) := click.pagePosition
  ⟨click.windowWidth, click.windowHeight, click.screenX - x, click.screenY - y⟩

/-- A geometry in the form `WxH+X+Y`. -/
def text (geometry : ViewportGeometry) : String :=
  String.ofList (decimalDigits geometry.width.toNat ++ ['x'] ++
    decimalDigits geometry.height.toNat) ++ "+" ++ int64Text geometry.originX ++ "+" ++
    int64Text geometry.originY

end ViewportGeometry

section Reading

variable {m : Type → Type} [Monad m] {β : Type} (source : Source m β)

def readInt64 (value : β) : m Int64 :=
  Int64.ofInt <$> source.integer (-(Nat.pow 2 63 : Int)) (Nat.pow 2 63 - 1) value

def readUInt32 (value : β) : m UInt32 :=
  (UInt32.ofNat ∘ Int.toNat) <$> source.integer 0 (Nat.pow 2 32 - 1) value

def ClickObservation.read (value : β) : m ClickObservation := do
  let fields ← source.fields ["screen_x", "screen_y", "client_x", "client_y", "page_x", "page_y",
    "scroll_x", "scroll_y", "window_width", "window_height"] value
  return {
    screenX := ← source.field fields "screen_x" (readInt64 source)
    screenY := ← source.field fields "screen_y" (readInt64 source)
    clientX := ← source.field fields "client_x" (readInt64 source)
    clientY := ← source.field fields "client_y" (readInt64 source)
    pageX := ← source.field fields "page_x" (readInt64 source)
    pageY := ← source.field fields "page_y" (readInt64 source)
    scrollX := ← source.field fields "scroll_x" (readInt64 source)
    scrollY := ← source.field fields "scroll_y" (readInt64 source)
    windowWidth := ← source.field fields "window_width" (readUInt32 source)
    windowHeight := ← source.field fields "window_height" (readUInt32 source) }

end Reading

def ClickObservation.reader : Reader ClickObservation :=
  ⟨fun source value => ClickObservation.read source value⟩

end WidgetLocator
