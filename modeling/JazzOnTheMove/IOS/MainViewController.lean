import JazzOnTheMove.Library.DelayedWrites
import Mathlib.Algebra.Order.Field.Rat

/-!
# The main view controller

`MainViewController` contains the side menu and one content screen. It slides the
menu in and out by the constant of a constraint, and darkens the content with a
shadow view. Both are set when an animation starts, while `isExpanded` is assigned
by the animation's completion. Lengths and opacities are exact rationals.
-/

namespace JazzOnTheMove.IOS

open DelayedWrites (Register)

/-- A child controller of the main view controller. -/
inductive Controller where
  | sideMenu
  | content (storyboardId : String)
  deriving DecidableEq, Repr

/-- A subview of the main view. -/
inductive Subview where
  | shadow
  | of (controller : Controller)
  deriving DecidableEq, Repr

/-- `UIView.tag`, which is set for content only. -/
def Subview.tag : Subview → ℕ
  | .of (.content _) => 99
  | _ => 0

/-- `insertSubview(_:at:)`. -/
def insertSubview (subviews : List Subview) (view : Subview) (index : ℕ) : List Subview :=
  subviews.take index ++ view :: subviews.drop index

/-- `sideMenuRevealWidth`, which is never assigned. -/
def sideMenuRevealWidth : ℚ := 260

/-- `paddingForRotation`. -/
def paddingForRotation : ℚ := 150

/-- The states of a gesture recognizer. -/
inductive GestureState where
  | possible
  | began
  | changed
  | ended
  | cancelled
  | failed
  deriving DecidableEq, Repr

/-- What a pan recognizer reports, along the x axis. -/
structure PanGesture where
  state : GestureState
  translation : ℚ
  velocity : ℚ
  deriving DecidableEq, Repr

/-- `MainViewController`, with its animations and blocks under way. -/
structure MainViewController where
  revealSideMenuOnTop : Bool
  gestureEnabled : Bool
  /-- `isExpanded`, with the values that pending animation completions will assign. -/
  expansion : Register Bool
  draggingIsEnabled : Bool
  panBaseLocation : ℚ
  /-- The constant of `sideMenuTrailingConstraint`. -/
  trailingConstant : ℚ
  /-- The alpha of `sideMenuShadowView`. -/
  shadowAlpha : ℚ
  /-- The x origin of the second subview. -/
  originX : ℚ
  children : List Controller
  subviews : List Subview
  /-- The addresses opened in a Safari controller. -/
  presented : List String
  /-- The blocks on the main queue that collapse the menu. -/
  collapseBlocks : ℕ
  /-- Whether the pan recognizer is in the middle of a gesture. -/
  panActive : Bool

namespace MainViewController

/-- The property `isExpanded`. -/
def isExpanded (vc : MainViewController) : Bool := vc.expansion.current

/-- `animateSideMenu(targetPosition:completion:)`; the completion assigns `expanded`. -/
def animateSideMenu (vc : MainViewController) (targetPosition : ℚ) (expanded : Bool) :
    MainViewController :=
  if vc.revealSideMenuOnTop then
    { vc with trailingConstant := targetPosition, expansion := vc.expansion.write expanded }
  else
    { vc with originX := targetPosition, expansion := vc.expansion.write expanded }

/-- `sideMenuState(expanded:)`. -/
def sideMenuState (vc : MainViewController) (expanded : Bool) : MainViewController :=
  if expanded then
    { vc.animateSideMenu (if vc.revealSideMenuOnTop then 0 else sideMenuRevealWidth) true with
      shadowAlpha := 6 / 10 }
  else
    { vc.animateSideMenu
        (if vc.revealSideMenuOnTop then -sideMenuRevealWidth - paddingForRotation else 0) false with
      shadowAlpha := 0 }

/-- `revealSideMenu()`. -/
def revealSideMenu (vc : MainViewController) : MainViewController :=
  vc.sideMenuState (if vc.isExpanded then false else true)

/-- `TapGestureRecognizer(sender:)`. -/
def tapGestureRecognizer (vc : MainViewController) (state : GestureState) : MainViewController :=
  if state = .ended then
    if vc.isExpanded then vc.sideMenuState false else vc
  else vc

/-- `showViewController(viewController:storyboardId:)`. -/
def showViewController (vc : MainViewController) (storyboardId : String) : MainViewController :=
  let view := Subview.of (.content storyboardId)
  let subviews := insertSubview (vc.subviews.filter fun subview => subview.tag ≠ 99) view
    (if vc.revealSideMenuOnTop then 0 else 1)
  let vc := {
    vc with
    subviews := subviews
    children := vc.children ++ [Controller.content storyboardId] }
  if vc.revealSideMenuOnTop then vc
  else
    -- the new view is the second subview now, and takes the shadow view over
    { vc with
      originX := if vc.isExpanded then sideMenuRevealWidth else 0
      subviews := vc.subviews.filter fun subview => subview ≠ Subview.shadow }

/-- What a row of the side menu does before the menu collapses. -/
inductive RowAction where
  | showScreen (storyboardId : String)
  | openSafari (address : String)
  | none
  deriving DecidableEq, Repr

/-- The `switch` of `selectedCell(_:)`. -/
def rowAction : ℕ → RowAction
  | 0 => .showScreen "HomeNavID"
  | 1 => .showScreen "WineNavID"
  | 2 => .showScreen "CoffeeNavID"
  | 3 => .showScreen "TravelNavID"
  | 4 => .showScreen "EventsNavID"
  | 5 => .showScreen "LifestyleNavID"
  | 7 => .openSafari "https://www.facebook.com/dr.drakeson"
  | 8 => .openSafari "https://www.facebook.com/dr.drakeson"
  | 9 => .openSafari "https://www.twitter.com/dr_drakeson"
  | 10 => .openSafari "https://www.instagram.com/dr.drakeson"
  | _ => .none

/-- `selectedCell(_:)`, which collapses the menu in a later block. -/
def selectedCell (vc : MainViewController) (row : ℕ) : MainViewController :=
  let vc :=
    match rowAction row with
    | .showScreen storyboardId => vc.showViewController storyboardId
    | .openSafari address => { vc with presented := vc.presented ++ [address] }
    | .none => vc
  { vc with collapseBlocks := vc.collapseBlocks + 1 }

/-- The `.began` case of `handlePanGesture(sender:)` once dragging is enabled. A fast swipe
starts an animation instead. -/
def dragBegan (vc : MainViewController) (velocity : ℚ) : MainViewController :=
  let velocityThreshold : ℚ := 550
  if velocityThreshold < |velocity| then
    { vc.sideMenuState (if vc.isExpanded then false else true) with draggingIsEnabled := false }
  else if vc.revealSideMenuOnTop then
    { vc with panBaseLocation := if vc.isExpanded then sideMenuRevealWidth else 0 }
  else vc

/-- The `.began` case of `handlePanGesture(sender:)`, with the sender it leaves. -/
def panBegan (vc : MainViewController) (sender : PanGesture) : MainViewController × PanGesture :=
  let velocity := sender.velocity
  -- expanding further than the reveal width is refused
  let sender :=
    if 0 < velocity ∧ vc.isExpanded then { sender with state := .cancelled } else sender
  let vc :=
    if 0 < velocity ∧ ¬ vc.isExpanded then { vc with draggingIsEnabled := true }
    else if velocity < 0 ∧ vc.isExpanded then { vc with draggingIsEnabled := true }
    else vc
  if vc.draggingIsEnabled then (vc.dragBegan velocity, sender) else (vc, sender)

/-- The opacity of the shadow while the menu is dragged to a position. -/
def dragAlpha (position : ℚ) : ℚ :=
  let percentage := position * 150 / sideMenuRevealWidth / sideMenuRevealWidth
  if 6 / 10 ≤ percentage then 6 / 10 else percentage

/-- The `.changed` case of `handlePanGesture(sender:)`, with the sender it leaves. -/
def panChanged (vc : MainViewController) (sender : PanGesture) : MainViewController × PanGesture :=
  if vc.draggingIsEnabled then
    if vc.revealSideMenuOnTop then
      let xLocation := vc.panBaseLocation + sender.translation
      let vc := { vc with shadowAlpha := dragAlpha xLocation }
      if xLocation ≤ sideMenuRevealWidth then
        ({ vc with trailingConstant := xLocation - sideMenuRevealWidth }, sender)
      else (vc, sender)
    else
      let vc := { vc with shadowAlpha := dragAlpha vc.originX }
      if vc.originX ≤ sideMenuRevealWidth ∧ 0 ≤ vc.originX then
        ({ vc with originX := vc.originX + sender.translation },
          { sender with translation := 0 })
      else (vc, sender)
  else (vc, sender)

/-- The `.ended` case of `handlePanGesture(sender:)`. -/
def panEnded (vc : MainViewController) : MainViewController :=
  let vc := { vc with draggingIsEnabled := false }
  if vc.revealSideMenuOnTop then
    vc.sideMenuState (decide (-(sideMenuRevealWidth * (1 / 2)) < vc.trailingConstant))
  else
    vc.sideMenuState (decide (sideMenuRevealWidth * (1 / 2) < vc.originX))

/-- `handlePanGesture(sender:)`, with the sender it leaves. -/
def handlePanGesture (vc : MainViewController) (sender : PanGesture) :
    MainViewController × PanGesture :=
  if vc.gestureEnabled then
    match sender.state with
    | .began => vc.panBegan sender
    | .changed => vc.panChanged sender
    | .ended => (vc.panEnded, sender)
    | _ => (vc, sender)
  else (vc, sender)

/-- The coordinator block of `viewWillTransition(to:with:)`. -/
def viewWillTransition (vc : MainViewController) : MainViewController :=
  if vc.revealSideMenuOnTop then
    { vc with
      trailingConstant :=
        if vc.isExpanded then 0 else -sideMenuRevealWidth - paddingForRotation }
  else vc

/-- The controller after `viewDidLoad()`. -/
def viewDidLoad (revealSideMenuOnTop gestureEnabled : Bool) : MainViewController :=
  let shadowed := if revealSideMenuOnTop then insertSubview [] .shadow 1 else []
  showViewController {
    revealSideMenuOnTop := revealSideMenuOnTop
    gestureEnabled := gestureEnabled
    expansion := Register.settled false
    draggingIsEnabled := false
    panBaseLocation := 0
    trailingConstant := -sideMenuRevealWidth - paddingForRotation
    shadowAlpha := 0
    originX := 0
    children := [.sideMenu]
    subviews := insertSubview shadowed (.of .sideMenu) (if revealSideMenuOnTop then 2 else 0)
    presented := []
    collapseBlocks := 0
    panActive := false } "HomeNavID"

/-- What happens to the controller. -/
inductive Event where
  /-- The menu button is pressed. -/
  | revealSideMenu
  /-- A tap outside the menu. -/
  | tap
  | selectRow (row : ℕ)
  /-- The main queue runs a block that collapses the menu. -/
  | collapseBlock
  /-- The completion of the oldest animation under way runs. -/
  | completion
  /-- The pan recognizer reports. -/
  | pan (sender : PanGesture)
  | rotate
  deriving DecidableEq, Repr

/-- One event. Reports that a recognizer cannot make in its state are ignored; a gesture
that its handler cancels is over. -/
def step (vc : MainViewController) : Event → MainViewController
  | .revealSideMenu => vc.revealSideMenu
  | .tap => vc.tapGestureRecognizer .ended
  | .selectRow row => vc.selectedCell row
  | .collapseBlock =>
      match vc.collapseBlocks with
      | 0 => vc
      | n + 1 => { vc with collapseBlocks := n }.sideMenuState false
  | .completion => { vc with expansion := vc.expansion.land }
  | .pan sender =>
      match sender.state, vc.panActive with
      | .began, false =>
          let (vc, sender) := vc.handlePanGesture sender
          { vc with panActive := decide (sender.state ≠ .cancelled) }
      | .changed, true => (vc.handlePanGesture sender).1
      | .ended, true | .cancelled, true | .failed, true =>
          { (vc.handlePanGesture sender).1 with panActive := false }
      | _, _ => vc
  | .rotate => vc.viewWillTransition

/-- A finite run. -/
def run (vc : MainViewController) (events : List Event) : MainViewController :=
  events.foldl step vc

/-- A run may be cut in two. -/
theorem run_append (vc : MainViewController) (earlier later : List Event) :
    vc.run (earlier ++ later) = (vc.run earlier).run later :=
  List.foldl_append

/-- One more event in a run. -/
theorem run_concat (vc : MainViewController) (events : List Event) (e : Event) :
    vc.run (events ++ [e]) = (vc.run events).step e :=
  vc.run_append events [e]

/-! ## What an animation changes -/

section

variable (vc : MainViewController) (expanded : Bool)

/-- Starting an animation shows its target, which the completion is going to assign, and
changes nothing else. -/
theorem sideMenuState_eq :
    vc.sideMenuState expanded = {
      vc with
      expansion := vc.expansion.write expanded
      trailingConstant := (vc.sideMenuState expanded).trailingConstant
      originX := (vc.sideMenuState expanded).originX
      shadowAlpha := (vc.sideMenuState expanded).shadowAlpha } := by
  unfold sideMenuState animateSideMenu
  cases expanded <;> cases vc.revealSideMenuOnTop <;> rfl

@[simp] theorem sideMenuState_revealSideMenuOnTop :
    (vc.sideMenuState expanded).revealSideMenuOnTop = vc.revealSideMenuOnTop := by
  rw [sideMenuState_eq]

@[simp] theorem sideMenuState_gestureEnabled :
    (vc.sideMenuState expanded).gestureEnabled = vc.gestureEnabled := by
  rw [sideMenuState_eq]

/-- The completion of the animation assigns its target. -/
@[simp] theorem sideMenuState_expansion :
    (vc.sideMenuState expanded).expansion = vc.expansion.write expanded := by
  rw [sideMenuState_eq]

@[simp] theorem sideMenuState_draggingIsEnabled :
    (vc.sideMenuState expanded).draggingIsEnabled = vc.draggingIsEnabled := by
  rw [sideMenuState_eq]

@[simp] theorem sideMenuState_panBaseLocation :
    (vc.sideMenuState expanded).panBaseLocation = vc.panBaseLocation := by
  rw [sideMenuState_eq]

@[simp] theorem sideMenuState_children : (vc.sideMenuState expanded).children = vc.children := by
  rw [sideMenuState_eq]

@[simp] theorem sideMenuState_subviews : (vc.sideMenuState expanded).subviews = vc.subviews := by
  rw [sideMenuState_eq]

@[simp] theorem sideMenuState_collapseBlocks :
    (vc.sideMenuState expanded).collapseBlocks = vc.collapseBlocks := by
  rw [sideMenuState_eq]

@[simp] theorem sideMenuState_panActive :
    (vc.sideMenuState expanded).panActive = vc.panActive := by
  rw [sideMenuState_eq]

end

end MainViewController

end JazzOnTheMove.IOS
