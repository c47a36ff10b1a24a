import JazzOnTheMove.Android.Screens

/-!
# What the Android app shows

In every run the task is empty, or has the onboarding, or the main activity with at most two
activities over it. None of the activities for signing in is ever started. The details are
those of a deal, unless the up button of a booking page has started them.
-/

namespace JazzOnTheMove.Android

open BackStack (Allowed Fits Outcome Replaces Stacked stacked_cons stacked_singleton)

/-! ## Rows -/

/-- The extras that the details of a deal are started with. -/
def itemExtras (deals : Items) : List (String × Option String) :=
  [("ID", deals.id), ("NAME", deals.name), ("BANNER", deals.banner), ("DESC", deals.desc),
    ("LINK", deals.link), ("TYPE", deals.type), ("POSTER", deals.poster)]

variable {toUpperCase : String → String}

/-- A row that was bound hands over the fields of a deal of the list. -/
theorem ItemsAdapter.row_extras {adapter : ItemsAdapter} {position : Fin adapter.getItemCount}
    {holder : ViewHolder} (hrow : adapter.row toUpperCase position = .ok holder) :
    ∃ deals ∈ adapter.dealsList, holder.extras = itemExtras deals := by
  refine ⟨adapter.dealsList.get position, List.get_mem _ _, ?_⟩
  unfold row at hrow
  obtain ⟨created, -, hbound⟩ := Fallible.bind_eq_ok.mp hrow
  unfold onBindViewHolder at hbound
  obtain ⟨type, -, hbound⟩ := Fallible.bind_eq_ok.mp hbound
  split_ifs at hbound
  cases hbound
  rfl

/-- The adapter has the documents of the answer if the listener returned. -/
theorem onComplete_returned {docs : List Document} {f : DealsFragment}
    (hcomplete : onComplete (.success docs) .created = (f, none)) :
    f.itemsAdapter.dealsList = docs.map Items.ofStrings := by
  have hthrown : (addDeals docs .created).2 = none :=
    (onComplete_thrown docs _).symm.trans (congrArg Prod.snd hcomplete)
  have hadapter := onComplete_itemsAdapter .created (stringFields_of_addDeals hthrown)
  rw [hcomplete] at hadapter
  exact congrArg ItemsAdapter.dealsList hadapter

/-- A row is that of a document of the answer. -/
theorem rowExtras_eq {sec : MenuSection} {docs : List Document} {position : ℕ}
    {extras : List (String × Option String)}
    (hrow : rowExtras toUpperCase (loadDeals sec) docs position = some extras) :
    ∃ doc ∈ docs, extras = itemExtras (Items.ofStrings doc) := by
  have hload : (loadDeals sec).onComplete = onComplete := by cases sec <;> rfl
  unfold rowExtras at hrow
  rw [hload] at hrow
  rcases hcomplete : onComplete (.success docs) .created with ⟨f, _ | thrown⟩
  · rw [hcomplete] at hrow
    simp only at hrow
    split_ifs at hrow with hposition
    split at hrow
    · rename_i holder hbound
      obtain ⟨deals, hdeals, hextras⟩ := ItemsAdapter.row_extras hbound
      rw [onComplete_returned hcomplete] at hdeals
      obtain ⟨doc, hdoc, rfl⟩ := List.mem_map.mp hdeals
      exact ⟨doc, hdoc, (Option.some.inj hrow).symm.trans hextras⟩
    · cases hrow
  · rw [hcomplete] at hrow
    cases hrow

/-! ## Which screen lies over which -/

/-- The screens at the bottom of the stack. -/
def Bottom (session : Session) : Screen → Prop
  | .welcome a => a.Running ∧ a.session = session
  | .main a => a.finished = false ∧ session.firstTimeLaunch = false
  | _ => False

/-- What the details are started with: the fields of a deal, or nothing. -/
inductive Handed : List (String × Option String) → Prop where
  | deal (doc : Document) : Handed (itemExtras (Items.ofStrings doc))
  | nothing : Handed []

/-- The screens that lie over another one. -/
def Above : Screen → Screen → Prop
  | .details extras, .main _ => Handed extras
  | .web url name, .details extras =>
      url = getStringExtra extras "LINK" ∧ name = getStringExtra extras "NAME"
  | .video, .main _ => True
  | .player, .video => True
  | _, _ => False

namespace App

/-- The screens of the task, the one in front first. -/
def screens (app : App) : List Screen := app.stack.map ActivityRecord.screen

/-- The screens are in order. -/
def Sound (app : App) : Prop := Stacked (Bottom app.session) Above app.screens

end App

variable {session : Session} {app : App}

/-- A row of the fragment in the frame is that of a document. -/
theorem clickRow_eq {a : MainActivity} {docs : List Document} {position : ℕ}
    {extras : List (String × Option String)}
    (hrow : a.clickRow toUpperCase docs position = some extras) :
    ∃ doc ∈ docs, extras = itemExtras (Items.ofStrings doc) := by
  obtain ⟨attached, -, hextras⟩ := Option.bind_eq_some_iff.mp hrow
  exact rowExtras_eq hextras

/-- What lies over the main activity does not depend on its state. -/
theorem replaces_main {a b : MainActivity} (hfinished : b.finished = false) :
    Replaces (Bottom session) Above (.main a) (.main b) :=
  ⟨fun ha => ⟨hfinished, ha.2⟩, fun _ habove => habove.elim⟩

/-- A main activity stays unless it is finished. -/
theorem left_allowed (a b : MainActivity) :
    Allowed (Bottom session) Above (.main a) (b.left.map ActivityRecord.screen) := by
  unfold MainActivity.left
  cases hfinished : b.finished with
  | true => exact .finishes
  | false => exact .stays (replaces_main hfinished)

/-- An onboarding that runs or is over leaves a stack in order. -/
theorem stacked_welcomed {a : WelcomeActivity} (ha : a.Running ∨ a.Over) :
    Stacked (Bottom a.session) Above
      (((welcomed a).apply []).map ActivityRecord.screen) := by
  unfold welcomed
  rcases ha with ha | ha
  · rw [ha.finished]
    exact stacked_singleton ⟨ha, rfl⟩
  · rw [ha.finished]
    exact stacked_singleton ⟨rfl, ha.session⟩

/-- An input leaves the onboarding running or over. -/
theorem running_or_over_input {a : WelcomeActivity} (ha : a.Running) (e : WelcomeActivity.Input) :
    (a.input e).Running ∨ (a.input e).Over := by
  have hinput := ha.input e
  split_ifs at hinput
  · exact Or.inr hinput
  · exact Or.inl hinput

/-- A new onboarding is running or over. -/
theorem running_or_over_onCreate (session : Session) :
    (WelcomeActivity.onCreate session).Running ∨ (WelcomeActivity.onCreate session).Over := by
  have hcreated := WelcomeActivity.onCreate_running_or_over session
  split_ifs at hcreated
  · exact Or.inl hcreated
  · exact Or.inr hcreated

/-- **In front.** Whatever happens to the activity in front leaves the stack in order. -/
theorem stacked_input {screen : Screen} {rest : List ActivityRecord}
    (h : Stacked (Bottom session) Above (screen :: rest.map ActivityRecord.screen)) (e : Input) :
    Stacked (Bottom (screen.input toUpperCase session e).1) Above
      (((screen.input toUpperCase session e).2.apply rest).map ActivityRecord.screen) := by
  cases screen with
  | welcome a =>
    obtain ⟨hrest, ha, rfl⟩ := h.root_of_not_above fun below => id
    rw [List.map_eq_nil_iff] at hrest
    subst hrest
    cases e with
    | back => exact .nil
    | welcome e => exact stacked_welcomed (running_or_over_input ha e)
    | _ => exact h
  | main a =>
    rw [Outcome.map_apply]
    cases e with
    | back => exact h.apply (left_allowed a _)
    | main e => exact h.apply (left_allowed a _)
    | row docs position =>
      simp only [Screen.input, openRow]
      cases hrow : a.clickRow toUpperCase docs position with
      | none => exact h
      | some extras =>
        obtain ⟨doc, -, rfl⟩ := clickRow_eq hrow
        exact h.apply (.starts (.refl _) (.deal doc))
    | fab2 =>
      simp only [Screen.input]
      split_ifs
      · exact h.apply (.starts (.refl _) trivial)
      · exact h
    | _ => exact h
  | details extras =>
    rw [Outcome.map_apply]
    cases e with
    | back => exact h.apply .finishes
    | book => exact h.apply (.starts (.refl _) ⟨rfl, rfl⟩)
    | _ => exact h
  | web url name =>
    rw [Outcome.map_apply]
    cases e with
    | back => exact h.apply .finishes
    | _ => exact h
  | video =>
    rw [Outcome.map_apply]
    cases e with
    | back => exact h.apply .finishes
    | _ => exact h
  | player =>
    rw [Outcome.map_apply]
    cases e with
    | back => exact h.apply .finishes
    | _ => exact h
  | phone | editProfile | home | all => exact (h.root_of_not_above fun below => id).2.elim

/-- **Creation.** Creating the activity in front leaves the stack in order. -/
theorem stacked_create {screen : Screen} {rest : List ActivityRecord}
    (h : Stacked (Bottom session) Above (screen :: rest.map ActivityRecord.screen)) :
    Stacked (Bottom (screen.create session).1) Above
      (((screen.create session).2.apply rest).map ActivityRecord.screen) := by
  cases screen with
  | welcome a =>
    obtain ⟨hrest, ha, rfl⟩ := h.root_of_not_above fun below => id
    rw [List.map_eq_nil_iff] at hrest
    subst hrest
    have hcreated := WelcomeActivity.onCreate_running_or_over a.session
    rw [if_pos ha.session] at hcreated
    exact stacked_welcomed (Or.inl (hcreated.setCurrentItem a.currentItem))
  | main a =>
    rw [Outcome.map_apply]
    exact h.apply (.stays (replaces_main rfl))
  | video =>
    rw [Outcome.map_apply]
    exact h.apply (.starts (.refl _) trivial)
  | details extras | web url name | player => exact h
  | phone | editProfile | home | all => exact (h.root_of_not_above fun below => id).2.elim

/-- **Up.** The up button of the activity in front leaves the stack in order. -/
theorem stacked_navigateUp {screen parent : Screen} {isParent : Screen → Bool}
    {rest : List Screen} (h : Stacked (Bottom session) Above (screen :: rest))
    (hparent : screen.parentActivity = some (isParent, parent)) :
    Stacked (Bottom session) Above (BackStack.navigateUp isParent parent rest) := by
  refine (stacked_cons.mp h).2.navigateUp fun below hbelow => ?_
  cases screen with
  | web url name =>
    obtain ⟨rfl, rfl⟩ := Prod.mk.inj (Option.some.inj hparent)
    cases below with
    | details extras =>
      refine ⟨False.elim, fun screen habove => ?_⟩
      cases screen with
      | main a => exact Handed.nothing
      | _ => exact habove.elim
    | _ => cases hbelow
  | details extras =>
    obtain ⟨rfl, rfl⟩ := Prod.mk.inj (Option.some.inj hparent)
    cases below with
    | home => exact .refl _
    | _ => cases hbelow
  | all _ => exact (h.root_of_not_above fun below => id).2.elim
  | _ => cases hparent

/-- The main loop finishes no activity. -/
theorem loopStep_finished (a : MainActivity) (e : MainActivity.LoopStep) :
    (a.loopStep e).finished = a.finished := by
  cases e with
  | transaction => rfl
  | runnable =>
    unfold MainActivity.loopStep
    cases a.posted <;> rfl

namespace App

/-- Creating what is in front keeps the screens in order. -/
theorem Sound.resume (h : app.Sound) : app.resume.Sound := by
  obtain ⟨session, stack⟩ := app
  unfold App.resume
  cases stack with
  | nil => exact h
  | cons record rest =>
    obtain ⟨screen, pending⟩ := record
    cases pending with
    | false => exact h
    | true => exact stacked_create h

/-- Activities may change by themselves if only the main activity does, and is not finished
by it. -/
theorem Sound.map (h : app.Sound) {f : ActivityRecord → ActivityRecord} (g : Screen → Screen)
    (hscreen : ∀ record, (f record).screen = g record.screen)
    (hchange : ∀ screen, g screen = screen ∨
      ∃ a b, screen = .main a ∧ g screen = .main b ∧ (a.finished = false → b.finished = false)) :
    Sound { app with stack := app.stack.map f } := by
  have hscreens : screens { app with stack := app.stack.map f } = app.screens.map g := by
    simp only [screens, List.map_map]
    exact List.map_congr_left fun record _ => hscreen record
  unfold Sound
  rw [hscreens]
  refine Stacked.map h (fun screen hroot => ?_) fun screen below habove => ?_
  · rcases hchange screen with hsame | ⟨a, b, rfl, hb, hfinished⟩
    · rwa [hsame]
    · rw [hb]
      exact ⟨hfinished hroot.1, hroot.2⟩
  · rcases hchange screen with hsame | ⟨a, b, rfl, -, -⟩
    · rw [hsame]
      rcases hchange below with hsame | ⟨a, b, rfl, hb, -⟩
      · rwa [hsame]
      · rw [hb]
        cases screen <;> exact habove
    · exact habove.elim

/-- Going up keeps the screens in order. -/
theorem Sound.onSupportNavigateUp (h : app.Sound) : app.onSupportNavigateUp.Sound := by
  obtain ⟨session, stack⟩ := app
  unfold App.onSupportNavigateUp
  cases stack with
  | nil => exact h
  | cons record rest =>
    simp only
    split
    · exact h
    · rename_i isParent parent hparent
      refine Sound.resume ?_
      unfold Sound screens
      rw [BackStack.map_navigateUp]
      exact stacked_navigateUp h hparent

/-- **Step.** Every event keeps the screens in order. -/
theorem Sound.step (h : app.Sound) (e : Event) : (app.step toUpperCase e).Sound := by
  cases e with
  | launch =>
    obtain ⟨session, stack⟩ := app
    cases stack with
    | nil => exact stacked_welcomed (running_or_over_onCreate session)
    | cons record rest => exact h
  | front e =>
    obtain ⟨session, stack⟩ := app
    cases stack with
    | nil => exact h
    | cons record rest => exact Sound.resume (stacked_input h e)
  | up => exact h.onSupportNavigateUp
  | loop e =>
    refine h.map (Screen.loopStep e) (fun record => rfl) fun screen => ?_
    cases screen with
    | main a =>
      exact Or.inr ⟨a, a.loopStep e, rfl, rfl, (loopStep_finished a e).trans⟩
    | _ => exact Or.inl rfl
  | configurationChanged =>
    exact Sound.resume (h.map id (fun record => rfl) fun screen => Or.inl rfl)
  | processDied =>
    refine Sound.resume (h.map Screen.die (fun record => rfl) fun screen => ?_)
    cases screen with
    | main a => exact Or.inr ⟨a, a.recreate true, rfl, rfl, fun _ => rfl⟩
    | _ => exact Or.inl rfl
  | removed => exact Stacked.nil

/-- A run of one more event. -/
theorem run_concat (events : List Event) (e : Event) :
    run toUpperCase (events ++ [e]) = (run toUpperCase events).step toUpperCase e :=
  List.foldl_concat ..

/-- **Runs.** The screens are in order after any run. -/
theorem sound_run (events : List Event) : (run toUpperCase events).Sound := by
  induction events using List.reverseRecOn with
  | nil => exact Stacked.nil
  | append_singleton events e ih =>
    rw [run_concat]
    exact ih.step e

end App

/-! ## What is shown -/

/-- The activities over the main activity. -/
inductive Front : List Screen → Prop where
  | none : Front []
  | details {extras : List (String × Option String)} (h : Handed extras) : Front [.details extras]
  | booking {extras : List (String × Option String)} (h : Handed extras) :
      Front [.web (getStringExtra extras "LINK") (getStringExtra extras "NAME"), .details extras]
  | video : Front [.video]
  | player : Front [.player, .video]

/-- What the app can show, the activity in front first. -/
inductive Shown (session : Session) : List Screen → Prop where
  | nothing : Shown session []
  | onboarding {a : WelcomeActivity} (ha : a.Running) (hsession : a.session = session) :
      Shown session [.welcome a]
  | main {a : MainActivity} (front : List Screen) (ha : a.finished = false)
      (hsession : session.firstTimeLaunch = false) (hfront : Front front) :
      Shown session (front ++ [.main a])

/-- Screens in order are among those. -/
theorem shown_of_stacked {screens : List Screen} (h : Stacked (Bottom session) Above screens) :
    Shown session screens := by
  induction h with
  | nil => exact .nothing
  | @cons screen rest hfits hrest ih =>
    cases ih with
    | nothing =>
      cases screen with
      | welcome a => exact .onboarding hfits.1 hfits.2
      | main a => exact .main [] hfits.1 hfits.2 .none
      | _ => exact hfits.elim
    | onboarding ha hsession => cases screen <;> exact hfits.elim
    | main front ha hsession hfront =>
      cases hfront with
      | none =>
        cases screen with
        | details extras => exact .main [_] ha hsession (.details hfits)
        | video => exact .main [_] ha hsession .video
        | _ => exact hfits.elim
      | details hextras =>
        cases screen with
        | web url name =>
          obtain ⟨rfl, rfl⟩ := hfits
          exact .main [_, _] ha hsession (.booking hextras)
        | _ => exact hfits.elim
      | video =>
        cases screen with
        | player => exact .main [_, _] ha hsession .player
        | _ => exact hfits.elim
      | booking _ | player => cases screen <;> exact hfits.elim

namespace App

/-- **Screens.** In every run the app shows nothing, the onboarding as its current page
demands, or the main activity, with the details of a deal or of nothing, their booking page,
the video or its player over it. -/
theorem run_shown (toUpperCase : String → String) (events : List Event) :
    Shown (run toUpperCase events).session (run toUpperCase events).screens :=
  shown_of_stacked (sound_run events)

end App

end JazzOnTheMove.Android
