import JazzOnTheMove.Android.ScreenRuns

/-!
# What the Android app shows, by what it showed before

The onboarding is shown until the main activity was there once, and never again. The player
comes back after it was left if the video activity below it was destroyed in the meantime. A
booking page that is left by its up button leads to details of nothing.
-/

namespace JazzOnTheMove.Android

open BackStack (Outcome Stacked)

variable {toUpperCase : String → String} {session : Session} {app : App}

namespace App

/-! ## The onboarding -/

/-- The main activity is on the stack. -/
def HasMain (app : App) : Prop := ∃ a, Screen.main a ∈ app.screens

/-- The main activity is never there before the flag is cleared. -/
theorem Sound.firstTimeLaunch_of_hasMain (h : app.Sound) (hmain : app.HasMain) :
    app.session.firstTimeLaunch = false := by
  obtain ⟨a, ha⟩ := hmain
  have hshown := shown_of_stacked h
  generalize app.screens = screens at ha hshown
  cases hshown with
  | nothing => simp at ha
  | onboarding => simp at ha
  | main _ _ hsession _ => exact hsession

/-- An activity that finishes leaves the flags alone. -/
theorem input_session_of_finishes {screen : Screen} {e : Input}
    (h : (screen.input toUpperCase session e).2 = .finishes) :
    (screen.input toUpperCase session e).1 = session := by
  cases screen with
  | welcome a =>
    cases e with
    | welcome e =>
      change welcomed (a.input e) = _ at h
      unfold welcomed at h
      split_ifs at h
    | _ => rfl
  | main a =>
    cases e with
    | fab2 =>
      simp only [Screen.input]
      split_ifs <;> rfl
    | _ => rfl
  | editProfile =>
    cases e with
    | userExists | saved => cases h
    | _ => rfl
  | _ => cases e <;> rfl

/-- A creation finishes nothing. -/
theorem create_ne_finishes (screen : Screen) : (screen.create session).2 ≠ .finishes := by
  cases screen with
  | welcome a =>
    change welcomed _ ≠ _
    unfold welcomed
    split_ifs <;> exact nofun
  | _ => exact nofun

/-- A resumed app has nothing in front only if it had nothing before. -/
theorem resume_eq_self_of_nil (h : app.resume.stack = []) : app.resume = app := by
  obtain ⟨session, stack⟩ := app
  unfold App.resume at h ⊢
  cases stack with
  | nil => rfl
  | cons record rest =>
    obtain ⟨screen, pending⟩ := record
    cases pending with
    | false => cases h
    | true => exact absurd (Outcome.eq_finishes_of_apply_eq_nil h) (create_ne_finishes screen)

/-- Going up to nothing leaves the flags alone. -/
theorem onSupportNavigateUp_session_of_nil (h : app.onSupportNavigateUp.stack = []) :
    app.onSupportNavigateUp.session = app.session := by
  obtain ⟨session, stack⟩ := app
  unfold App.onSupportNavigateUp at h ⊢
  cases stack with
  | nil => rfl
  | cons record rest =>
    simp only at h ⊢
    split at h
    · rfl
    · exact congrArg App.session (resume_eq_self_of_nil h)

/-- A step that leaves nothing in front leaves the flags alone. -/
theorem step_session_of_nil {e : Event} (h : (app.step toUpperCase e).stack = []) :
    (app.step toUpperCase e).session = app.session := by
  obtain ⟨session, stack⟩ := app
  cases e with
  | launch =>
    cases stack with
    | nil =>
      have hfinishes := Outcome.eq_finishes_of_apply_eq_nil h
      unfold welcomed at hfinishes
      split_ifs at hfinishes
    | cons record rest => rfl
  | front e =>
    cases stack with
    | nil => rfl
    | cons record rest =>
      have hself := resume_eq_self_of_nil h
      have hnil := (congrArg App.stack hself).symm.trans h
      exact (congrArg App.session hself).trans
        (input_session_of_finishes (Outcome.eq_finishes_of_apply_eq_nil hnil))
  | up => exact onSupportNavigateUp_session_of_nil h
  | loop e | removed => rfl
  | configurationChanged | processDied =>
    have hself := resume_eq_self_of_nil h
    exact (congrArg App.session hself).trans rfl

/-- No other activity than the onboarding sets the flag. -/
theorem input_firstTimeLaunch {screen : Screen} {e : Input}
    (hscreen : ∀ a, screen ≠ .welcome a) (hsession : session.firstTimeLaunch = false) :
    (screen.input toUpperCase session e).1.firstTimeLaunch = false := by
  cases screen with
  | welcome a => exact absurd rfl (hscreen a)
  | main a =>
    cases e with
    | fab2 =>
      simp only [Screen.input]
      split_ifs <;> exact hsession
    | _ => exact hsession
  | editProfile =>
    cases e with
    | userExists | saved => rfl
    | _ => exact hsession
  | _ => cases e <;> exact hsession

/-- A later onboarding is over before it shows its pages. -/
theorem onCreate_firstTimeLaunch (hsession : session.firstTimeLaunch = false) :
    (WelcomeActivity.onCreate session).session.firstTimeLaunch = false := by
  have hcreated := WelcomeActivity.onCreate_running_or_over session
  rw [if_neg (by simp [hsession])] at hcreated
  exact hcreated.session

/-- A resumed app leaves the flag cleared. -/
theorem resume_firstTimeLaunch (hsession : app.session.firstTimeLaunch = false) :
    app.resume.session.firstTimeLaunch = false := by
  obtain ⟨session, stack⟩ := app
  unfold App.resume
  cases stack with
  | nil => exact hsession
  | cons record rest =>
    obtain ⟨screen, pending⟩ := record
    cases pending with
    | false => exact hsession
    | true =>
      cases screen with
      | welcome a =>
        have hpage := WelcomeActivity.setCurrentItem_session (WelcomeActivity.onCreate session)
          a.currentItem
        exact (congrArg Session.firstTimeLaunch hpage).trans (onCreate_firstTimeLaunch hsession)
      | _ => exact hsession

/-- Going up leaves the flag cleared. -/
theorem onSupportNavigateUp_firstTimeLaunch (hsession : app.session.firstTimeLaunch = false) :
    app.onSupportNavigateUp.session.firstTimeLaunch = false := by
  obtain ⟨session, stack⟩ := app
  unfold App.onSupportNavigateUp
  cases stack with
  | nil => exact hsession
  | cons record rest =>
    simp only
    split
    · exact hsession
    · exact resume_firstTimeLaunch hsession

/-- The flag stays cleared. -/
theorem Sound.firstTimeLaunch_step (h : app.Sound) (hsession : app.session.firstTimeLaunch = false)
    (e : Event) : (app.step toUpperCase e).session.firstTimeLaunch = false := by
  obtain ⟨session, stack⟩ := app
  cases e with
  | launch =>
    cases stack with
    | nil => exact onCreate_firstTimeLaunch hsession
    | cons record rest => exact hsession
  | front e =>
    cases stack with
    | nil => exact hsession
    | cons record rest =>
      refine resume_firstTimeLaunch (input_firstTimeLaunch ?_ hsession)
      intro a hwelcome
      have hstacked : Stacked (Bottom session) Above
          (.welcome a :: rest.map ActivityRecord.screen) := hwelcome ▸ h
      obtain ⟨-, ha, hsame⟩ := hstacked.root_of_not_above fun below => id
      have hfirst := ha.session
      rw [hsame, hsession] at hfirst
      cases hfirst
  | up => exact onSupportNavigateUp_firstTimeLaunch hsession
  | loop e | removed => exact hsession
  | configurationChanged | processDied => exact resume_firstTimeLaunch hsession

/-- **The flag.** It is cleared exactly if the main activity was there at some time. -/
theorem firstTimeLaunch_run_iff (events : List Event) :
    (run toUpperCase events).session.firstTimeLaunch = false ↔
      ∃ earlier, earlier <+: events ∧ (run toUpperCase earlier).HasMain := by
  induction events using List.reverseRecOn with
  | nil =>
    constructor
    · exact nofun
    · rintro ⟨earlier, hpre, a, ha⟩
      rw [List.prefix_nil] at hpre
      subst hpre
      cases ha
  | append_singleton events e ih =>
    constructor
    · intro hflag
      have hshown := run_shown toUpperCase (events ++ [e])
      generalize hscreens : (run toUpperCase (events ++ [e])).screens = screens at hshown
      cases hshown with
      | nothing =>
        rw [screens, List.map_eq_nil_iff] at hscreens
        rw [run_concat] at hscreens hflag
        rw [step_session_of_nil hscreens] at hflag
        obtain ⟨earlier, hpre, hmain⟩ := ih.mp hflag
        exact ⟨earlier, hpre.trans (List.prefix_append _ _), hmain⟩
      | onboarding ha hsession =>
        have hfirst := ha.session
        rw [hsession, hflag] at hfirst
        cases hfirst
      | @main a _ ha hsession hfront =>
        exact ⟨_, List.prefix_refl _, a, by rw [hscreens]; simp⟩
    · rintro ⟨earlier, hpre, hmain⟩
      rcases List.prefix_concat_iff.mp hpre with rfl | hpre
      · exact (sound_run _).firstTimeLaunch_of_hasMain hmain
      · rw [run_concat]
        exact (sound_run events).firstTimeLaunch_step (ih.mpr ⟨earlier, hpre, hmain⟩) e

/-- **Launch.** With no task, a click on the launcher's icon shows the main activity if it was
there at some earlier time, and the first page of the onboarding otherwise. -/
theorem launch_shows (toUpperCase : String → String) (events : List Event)
    (hclosed : (run toUpperCase events).screens = []) :
    ((∃ earlier, earlier <+: events ∧ (run toUpperCase earlier).HasMain) →
        (run toUpperCase (events ++ [.launch])).screens = [.main .fresh]) ∧
      ((¬ ∃ earlier, earlier <+: events ∧ (run toUpperCase earlier).HasMain) →
        ∃ a, (run toUpperCase (events ++ [.launch])).screens = [.welcome a] ∧ a.Running ∧
          a.currentItem = firstPage) := by
  rw [← firstTimeLaunch_run_iff, run_concat]
  generalize run toUpperCase events = app at hclosed ⊢
  obtain ⟨session, stack⟩ := app
  obtain rfl : stack = [] := List.map_eq_nil_iff.mp hclosed
  have hcreated := WelcomeActivity.onCreate_running_or_over session
  constructor
  · intro (hflag : session.firstTimeLaunch = false)
    rw [if_neg (by simp [hflag])] at hcreated
    change ((welcomed (WelcomeActivity.onCreate session)).apply []).map _ = _
    unfold welcomed
    rw [hcreated.finished]
    rfl
  · intro (hflag : ¬ session.firstTimeLaunch = false)
    rw [if_pos (by simpa using hflag)] at hcreated
    refine ⟨WelcomeActivity.onCreate session, ?_, hcreated, ?_⟩
    · change ((welcomed (WelcomeActivity.onCreate session)).apply []).map _ = _
      unfold welcomed
      rw [hcreated.finished]
      rfl
    · exact WelcomeActivity.onCreate_currentItem session

/-- The onboarding was skipped and the main activity left. -/
theorem launch_after_skip :
    let events : List Event := [.launch, .front (.welcome .skip), .front .back]
    (run (String.map Char.toUpper) (events ++ [.launch])).screens = [.main .fresh] :=
  (launch_shows (String.map Char.toUpper) [.launch, .front (.welcome .skip), .front .back] rfl).1
    ⟨[.launch, .front (.welcome .skip)], ⟨[.front .back], rfl⟩, .fresh, List.mem_cons_self⟩

/-! ## Activities over the main activity -/

/-- Events that neither reach the activity in front nor remove the task. -/
def Event.passes : Event → Bool
  | .front _ | .up | .removed => false
  | _ => true

/-- Events after which activities are created again. -/
def Event.destroys : Event → Bool
  | .configurationChanged | .processDied => true
  | _ => false

/-- Two activities lie over the main activity, and the lower one may have to be created
again. -/
def ShownOver (app : App) (front below : Screen) (pending : Bool) : Prop :=
  ∃ a p, app.stack = [⟨front, false⟩, ⟨below, pending⟩, ⟨.main a, p⟩]

/-- An activity without a state of its own. -/
structure Stateless (screen : Screen) : Prop where
  loopStep (e : MainActivity.LoopStep) : screen.loopStep e = screen
  die : screen.die = screen

/-- Such an activity is shown as it was when it is created again. -/
structure Restored (screen : Screen) : Prop extends Stateless screen where
  create (session : Session) : screen.create session = (session, .stays screen.created)

variable {front below : Screen} {pending : Bool}

/-- Both activities stay where they are. -/
theorem ShownOver.step (h : app.ShownOver front below pending) (hfront : Restored front)
    (hbelow : Stateless below) {e : Event} (he : e.passes = true) :
    (app.step toUpperCase e).ShownOver front below (pending || e.destroys) := by
  obtain ⟨session, stack⟩ := app
  obtain ⟨a, p, rfl⟩ := h
  cases e with
  | launch => exact ⟨a, p, by simp only [Event.destroys, Bool.or_false]; rfl⟩
  | loop e =>
    have hpending : (pending || (Event.loop e).destroys) = pending := Bool.or_false _
    refine ⟨a.loopStep e, p, ?_⟩
    change [(⟨front.loopStep e, false⟩ : ActivityRecord), ⟨below.loopStep e, pending⟩, _] = _
    rw [hfront.loopStep, hbelow.loopStep, hpending]
    rfl
  | configurationChanged =>
    refine ⟨a, true, ?_⟩
    change (front.create session).2.apply [⟨below, true⟩, ⟨.main a, true⟩] = _
    rw [hfront.create, Event.destroys, Bool.or_true]
    rfl
  | processDied =>
    refine ⟨a.recreate true, true, ?_⟩
    change (front.die.create session).2.apply
      [⟨below.die, true⟩, ⟨.main (a.recreate true), true⟩] = _
    rw [hfront.die, hfront.create, hbelow.die, Event.destroys, Bool.or_true]
    rfl
  | front e | up | removed => cases he

/-- They do during a run. -/
theorem ShownOver.run (h : app.ShownOver front below pending) (hfront : Restored front)
    (hbelow : Stateless below) {events : List Event} (hevents : ∀ e ∈ events, e.passes = true) :
    (events.foldl (App.step toUpperCase) app).ShownOver front below
      (pending || events.any Event.destroys) := by
  induction events generalizing app pending with
  | nil => rwa [List.any_nil, Bool.or_false]
  | cons e events ih =>
    rw [List.any_cons, ← Bool.or_assoc]
    exact ih (h.step hfront hbelow (hevents e List.mem_cons_self)) fun d hd =>
      hevents d (List.mem_cons_of_mem e hd)

/-- A run between two events. -/
theorem run_between (events during : List Event) (first last : Event) :
    run toUpperCase (events ++ [first] ++ during ++ [last]) =
      (during.foldl (App.step toUpperCase)
        ((run toUpperCase events).step toUpperCase first)).step toUpperCase last := by
  simp only [run, List.foldl_append, List.foldl_cons, List.foldl_nil]

/-! ## The player -/

/-- The button of the video starts the player. -/
theorem shownOver_fab2 {a : MainActivity} (hscreens : app.screens = [.main a])
    (hhome : a.showsHome = true) :
    (app.step toUpperCase (.front .fab2)).ShownOver .player .video false := by
  obtain ⟨session, stack⟩ := app
  obtain ⟨⟨screen, p⟩, rfl, hscreen⟩ := List.map_eq_singleton_iff.mp hscreens
  obtain rfl : screen = .main a := hscreen
  have hinput : Screen.input toUpperCase session (.main a) .fab2 =
      (session, .starts (Screen.main a).created ⟨.video, true⟩) := if_pos hhome
  have hstep : App.step toUpperCase ⟨session, [⟨.main a, p⟩]⟩ (.front .fab2) =
      App.resume ⟨(Screen.input toUpperCase session (.main a) .fab2).1,
        (Screen.input toUpperCase session (.main a) .fab2).2.apply []⟩ := rfl
  rw [hstep, hinput]
  exact ⟨a, false, rfl⟩

/-- **The player again.** However long the player of the video was shown, leaving it shows it
again if activities were destroyed in the meantime, and else the empty activity below it. -/
theorem player_left (events during : List Event) {a : MainActivity}
    (hmain : (run toUpperCase events).screens = [.main a]) (hhome : a.showsHome = true)
    (hduring : ∀ e ∈ during, e.passes = true) :
    ∃ b, (run toUpperCase (events ++ [.front .fab2] ++ during ++ [.front .back])).screens =
      if during.any Event.destroys then [.player, .video, .main b] else [.video, .main b] := by
  have hstarted : ShownOver ((run toUpperCase events).step toUpperCase (.front .fab2)) .player
      .video false := shownOver_fab2 hmain hhome
  have hplayer : ShownOver (during.foldl (App.step toUpperCase) _) .player .video
      (false || during.any Event.destroys) :=
    hstarted.run ⟨⟨fun _ => rfl, rfl⟩, fun _ => rfl⟩ ⟨fun _ => rfl, rfl⟩ hduring
  rw [Bool.false_or] at hplayer
  rw [run_between]
  generalize during.foldl (App.step toUpperCase) _ = app at hplayer
  obtain ⟨session, stack⟩ := app
  obtain ⟨b, p, rfl⟩ := hplayer
  refine ⟨b, ?_⟩
  cases during.any Event.destroys <;> rfl

/-- The device is rotated while the player is shown. -/
theorem player_rotated :
    let events : List Event :=
      [.launch, .front (.welcome .skip), .loop .runnable, .loop .transaction, .front .fab2,
        .configurationChanged, .front .back]
    ∃ b, (run (String.map Char.toUpper) events).screens = [.player, .video, .main b] :=
  player_left [.launch, .front (.welcome .skip), .loop .runnable, .loop .transaction]
    [.configurationChanged] rfl rfl (by simp [Event.passes])

/-! ## The booking page -/

/-- Booking opens the page of the link. -/
theorem shownOver_book {extras : List (String × Option String)} {a : MainActivity}
    (hscreens : app.screens = [.details extras, .main a]) :
    (app.step toUpperCase (.front .book)).ShownOver
      (.web (getStringExtra extras "LINK") (getStringExtra extras "NAME")) (.details extras)
        false := by
  obtain ⟨session, stack⟩ := app
  obtain ⟨⟨screen, _⟩, rest, rfl, hscreen, hrest⟩ := List.map_eq_cons_iff.mp hscreens
  obtain ⟨⟨other, p⟩, rfl, hother⟩ := List.map_eq_singleton_iff.mp hrest
  obtain rfl : screen = .details extras := hscreen
  obtain rfl : other = .main a := hother
  exact ⟨a, p, rfl⟩

/-- **Back or up.** However long the page of a deal's link was shown, the back button leads to
the details of the deal again. The up button leads to details of nothing, whose booking opens a
page without an address. -/
theorem booking_left (events during : List Event) {extras : List (String × Option String)}
    {a : MainActivity}
    (hdetails : (run toUpperCase events).screens = [.details extras, .main a])
    (hduring : ∀ e ∈ during, e.passes = true) :
    ∃ b,
      (run toUpperCase (events ++ [.front .book] ++ during ++ [.front .back])).screens =
        [.details extras, .main b] ∧
      (run toUpperCase (events ++ [.front .book] ++ during ++ [.up])).screens =
        [.details [], .main b] ∧
      (run toUpperCase (events ++ [.front .book] ++ during ++ [.up] ++ [.front .book])).screens =
        [.web none none, .details [], .main b] := by
  have hstarted : ShownOver ((run toUpperCase events).step toUpperCase (.front .book))
      (.web (getStringExtra extras "LINK") (getStringExtra extras "NAME")) (.details extras)
      false := shownOver_book hdetails
  have hpage : ShownOver (during.foldl (App.step toUpperCase) _) _ _
      (false || during.any Event.destroys) :=
    hstarted.run ⟨⟨fun _ => rfl, rfl⟩, fun _ => rfl⟩ ⟨fun _ => rfl, rfl⟩ hduring
  rw [run_concat _ (.front .book), run_between, run_between]
  generalize during.foldl (App.step toUpperCase) _ = app at hpage
  obtain ⟨session, stack⟩ := app
  obtain ⟨b, p, rfl⟩ := hpage
  refine ⟨b, ?_, rfl, rfl⟩
  cases false || during.any Event.destroys <;> rfl

/-- A complete deal. -/
def sampleDeal : Document := .deal "https://x/d" "coffee" 1

/-- The device is rotated while the page of a deal's link is shown. -/
theorem booking_left_by_up :
    let events : List Event :=
      [.launch, .front (.welcome .skip), .loop .runnable, .loop .transaction,
        .front (.row [sampleDeal] 0)]
    ∃ b,
      (run (String.map Char.toUpper)
          (events ++ [.front .book] ++ [.configurationChanged] ++ [.front .back])).screens =
        [.details (itemExtras (Items.ofStrings sampleDeal)), .main b] ∧
      (run (String.map Char.toUpper)
          (events ++ [.front .book] ++ [.configurationChanged] ++ [.up])).screens =
        [.details [], .main b] ∧
      (run (String.map Char.toUpper)
          (events ++ [.front .book] ++ [.configurationChanged] ++ [.up] ++
            [.front .book])).screens =
        [.web none none, .details [], .main b] :=
  booking_left _ [.configurationChanged] rfl (by simp [Event.passes])

end App

end JazzOnTheMove.Android
