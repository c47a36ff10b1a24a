import JazzOnTheMove.Android.ScreenRuns
import JazzOnTheMove.IOS.DealDetails
import Mathlib.Data.List.Infix

/-!
# The details of a deal in the two apps

Both apps present the same fields of the document in the row that was tapped. Booking opens the
link of the deal on Android, whatever it is, and on iOS only if the deal is an event with an
address of a recording.
-/

namespace JazzOnTheMove

open IOS (DetailsVC Move delivered listedAfter Tapped)

variable {URL : Type} {contains : String → String → Bool} {urlOf : String → Option URL}
  {vc : DetailsVC} {doc : Document}

/-- The details of the iOS app under the names of Android's extras. -/
def IOS.DetailsVC.extras (vc : DetailsVC) : List (String × Option String) :=
  [("ID", some vc.itemID), ("NAME", some vc.nameE), ("BANNER", some vc.bannerF),
    ("DESC", some vc.descE), ("LINK", some vc.linkF), ("TYPE", some vc.typeF)]

end JazzOnTheMove
