import JazzOnTheMove.Android.ItemsAdapter
import JazzOnTheMove.Android.Recreation
import JazzOnTheMove.Android.WelcomeActivity
import JazzOnTheMove.Library.BackStack

/-!
# The screens of the Android app

The launcher starts `WelcomeActivity`, and every other activity is started by one of the app.
An activity that was destroyed, because the configuration changed or the process died, is
created again once it is in front. `VideoActivity` starts the player whenever it is created.
The up button of an activity starts the parent that the manifest declares for it, without
extras.
-/

namespace JazzOnTheMove.Android

open BackStack (Outcome navigateUp)

/-- An activity of the app's task. The static fields of `MainActivity` are kept with the
activity, as no stack has two of them. -/
inductive Screen where
  | welcome (a : WelcomeActivity)
  | main (a : MainActivity)
  /-- `DetailsActivity` with the extras of its intent. -/
  | details (extras : List (String × Option String))
  /-- `WebActivity` with the extras of its intent. -/
  | web (url name : Option String)
  | video
  /-- The activity that `YouTubeStandalonePlayer` starts. -/
  | player
  | phone
  | editProfile
  /-- `HomeActivity`, which throws in `onCreate` before it has a listener. -/
  | home
  /-- `AllActivity` with the extra of its intent. -/
  | all (id : ℕ)

/-- An activity on the stack. -/
structure ActivityRecord where
  screen : Screen
  /-- Whether it has to be created, for the first time or again, before it is shown. -/
  pending : Bool

/-- An activity that exists. -/
def Screen.created (screen : Screen) : ActivityRecord := ⟨screen, false⟩

/-- `getStringExtra(name)`. -/
def getStringExtra (extras : List (String × Option String)) (name : String) : Option String :=
  (extras.lookup name).join

/-- The extras that a row hands to `DetailsActivity` on a click, if the list has such a row
after its fragment was answered with documents. -/
def rowExtras (toUpperCase : String → String) (load : DealsLoad) (docs : List Document)
    (position : ℕ) : Option (List (String × Option String)) :=
  match load.onComplete (.success docs) .created with
  | (_, some _) => none
  | (f, none) =>
      if h : position < f.itemsAdapter.getItemCount then
        match f.itemsAdapter.row toUpperCase ⟨position, h⟩ with
        | .ok holder => some holder.extras
        | .error _ => none
      else none

/-- The type of the deals that `AllActivity` shows, by the extra of its intent. -/
def AllActivity.url : ℕ → String
  | 1 => "liqour"
  | 2 => "coffee"
  | 3 => "travel"
  | 4 => "events"
  | 5 => "lifestyle"
  | _ => ""

/-- `AllActivity.loadDeals`. -/
def AllActivity.loadDeals (id : ℕ) : DealsLoad := loadDealsOfType (AllActivity.url id)

/-- What happens to the activity in front. No other one receives input, and one that has
started another receives none before it is in front again, as if starting were instantaneous. -/
inductive Input where
  /-- The back button. It finishes an activity at the bottom of the task as well, which the
  platform does before Android 12. -/
  | back
  | welcome (e : WelcomeActivity.Input)
  | main (e : MainActivity.Input)
  /-- A click on a row of the deals. -/
  | row (docs : List Document) (position : ℕ)
  /-- A click on `fab2` of the home fragment. -/
  | fab2
  /-- A click on `mBtn` of the details. -/
  | book
  /-- The sign-in of `PhoneActivity` succeeds. -/
  | signedIn
  /-- `EditProfileActivity` finds no user. -/
  | noUser
  /-- Its query for the user's record is answered with one, or is cancelled. -/
  | userExists
  | cancelled
  /-- It has saved the profile. -/
  | saved

/-- An onboarding that is over forwards to the main activity. -/
def welcomed (a : WelcomeActivity) : Outcome ActivityRecord :=
  if a.finished then .forwards (Screen.main .fresh).created else .stays (Screen.welcome a).created

/-- A main activity that is finished leaves the stack. -/
def MainActivity.left (a : MainActivity) : Outcome ActivityRecord :=
  if a.finished then .finishes else .stays (Screen.main a).created

/-- The home fragment is in the frame. -/
def MainActivity.showsHome (a : MainActivity) : Bool :=
  a.frame.current.any fun attached => decide (attached.fragment = .home)

/-- The extras that a row of the fragment in the frame hands over. -/
def MainActivity.clickRow (toUpperCase : String → String) (a : MainActivity)
    (docs : List Document) (position : ℕ) : Option (List (String × Option String)) :=
  a.frame.current.bind fun attached =>
    rowExtras toUpperCase (loadDeals attached.fragment) docs position

/-- A click on a row starts the details of its deal. -/
def openRow (screen : Screen) : Option (List (String × Option String)) → Outcome ActivityRecord
  | some extras => .starts screen.created (Screen.details extras).created
  | none => .stays screen.created

section

variable (toUpperCase : String → String)

/-- What the activity in front does, and the flags it leaves. -/
def Screen.input (session : Session) : Screen → Input → Session × Outcome ActivityRecord
  | .welcome a, .welcome e => ((a.input e).session, welcomed (a.input e))
  | .main a, .back => (session, (a.input .back).left)
  | .main a, .main e => (session, (a.input e).left)
  | .main a, .row docs position =>
      (session, openRow (.main a) (a.clickRow toUpperCase docs position))
  | .main a, .fab2 =>
      if a.showsHome then (session, .starts (Screen.main a).created ⟨.video, true⟩)
      else (session, .stays (Screen.main a).created)
  | .details extras, .book =>
      (session, .starts (Screen.details extras).created
        (Screen.web (getStringExtra extras "LINK") (getStringExtra extras "NAME")).created)
  | .all id, .row docs position =>
      (session, openRow (.all id)
        (rowExtras toUpperCase (AllActivity.loadDeals id) docs position))
  | .phone, .signedIn => (session, .forwards Screen.editProfile.created)
  | .editProfile, .noUser => (session, .forwards Screen.phone.created)
  | .editProfile, .userExists =>
      (⟨false, false⟩, .starts Screen.editProfile.created (Screen.main .fresh).created)
  | .editProfile, .cancelled => (session, .forwards Screen.phone.created)
  | .editProfile, .saved => (⟨false, false⟩, .forwards (Screen.main .fresh).created)
  | _, .back => (session, .finishes)
  | screen, _ => (session, .stays screen.created)

/-- The activity in front is created, with its saved state if there is one. -/
def Screen.create (session : Session) : Screen → Session × Outcome ActivityRecord
  | .welcome a =>
      -- the view pager restores its page
      let b := (WelcomeActivity.onCreate session).setCurrentItem a.currentItem
      (b.session, welcomed b)
  | .main a => (session, .stays (Screen.main (a.recreate false)).created)
  | .video => (session, .starts Screen.video.created Screen.player.created)
  | screen => (session, .stays screen.created)

/-- What is left of an activity when the process dies. -/
def Screen.die : Screen → Screen
  | .main a => .main (a.recreate true)
  | screen => screen

/-- What a step of the main loop does to an activity. -/
def Screen.loopStep (e : MainActivity.LoopStep) : Screen → Screen
  | .main a => .main (a.loopStep e)
  | screen => screen

/-- `PARENT_ACTIVITY` in the manifest: which activities are of the class that the up button
leads to, and one of it as the button starts it. No action bar, or no parent, no button. -/
def Screen.parentActivity : Screen → Option ((Screen → Bool) × Screen)
  | .web _ _ => some (fun | .details _ => true | _ => false, .details [])
  | .details _ => some (fun | .home => true | _ => false, .home)
  | .all _ => some (fun | .main _ => true | _ => false, .main .fresh)
  | _ => none

/-- The app: the flags in its preferences and its task. -/
structure App where
  session : Session
  stack : List ActivityRecord

namespace App

/-- The app as it is installed. -/
def installed : App := ⟨⟨true, true⟩, []⟩

/-- What is in front is created if it has to be. -/
def resume (app : App) : App :=
  match app.stack with
  | ⟨screen, true⟩ :: rest =>
      let (session, outcome) := screen.create app.session
      ⟨session, outcome.apply rest⟩
  | _ => app

/-- `onSupportNavigateUp()` of the activity in front, if it has a parent. -/
def onSupportNavigateUp (app : App) : App :=
  match app.stack with
  | [] => app
  | record :: rest =>
      match record.screen.parentActivity with
      | none => app
      | some (isParent, parent) =>
          let stack := navigateUp (fun below => isParent below.screen) parent.created rest
          resume { app with stack := stack }

/-- What happens to the app. -/
inductive Event where
  /-- A click on the launcher's icon, which brings an existing task to the front. -/
  | launch
  | front (e : Input)
  /-- A click on the up button of the activity in front, if it has one. -/
  | up
  | loop (e : MainActivity.LoopStep)
  /-- The configuration changes. All activities are taken to be destroyed by it, those that
  are not in front too. -/
  | configurationChanged
  /-- The process dies, and the user returns to the task. -/
  | processDied
  /-- The user removes the task. -/
  | removed

/-- One event. -/
def step (app : App) : Event → App
  | .launch =>
      match app.stack with
      | [] =>
          let a := WelcomeActivity.onCreate app.session
          ⟨a.session, (welcomed a).apply []⟩
      | _ => app
  | .front e =>
      match app.stack with
      | [] => app
      | record :: rest =>
          let (session, outcome) := record.screen.input toUpperCase app.session e
          resume ⟨session, outcome.apply rest⟩
  | .up => app.onSupportNavigateUp
  | .loop e =>
      { app with stack := app.stack.map fun record =>
          { record with screen := record.screen.loopStep e } }
  | .configurationChanged =>
      resume { app with stack := app.stack.map fun record => { record with pending := true } }
  | .processDied =>
      resume { app with stack := app.stack.map fun record => ⟨record.screen.die, true⟩ }
  | .removed => { app with stack := [] }

/-- The app after some events. -/
def run (events : List Event) : App := events.foldl (step toUpperCase) installed

end App

end

end JazzOnTheMove.Android
