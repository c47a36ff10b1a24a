import JazzOnTheMove.Android.MainActivity
import JazzOnTheMove.Library.Runs

/-!
# Switching sections while the main loop is busy

Inputs can come at any time between the runnables that read the requested section and
the transactions that show it. A request that finds its fragment attached returns at
once, although a transaction for another section may still be waiting.
-/

namespace JazzOnTheMove.Android

namespace MainActivity

/-- An input or a step of the main loop. -/
inductive Event where
  | input (e : Input)
  | loop (e : LoopStep)
  deriving DecidableEq, Repr

/-- One event. -/
def step (a : MainActivity) : Event → MainActivity
  | .input e => a.input e
  | .loop e => a.loopStep e

/-- A finite run from the start of the app. -/
def run (events : List Event) : MainActivity := events.foldl step fresh

/-- One more event in a run. -/
theorem run_concat (events : List Event) (e : Event) :
    run (events ++ [e]) = (run events).step e := by
  simp [run]

/-- The section that an event requests. -/
def Event.request : Event → Option MenuSection
  | .input (.select item) => sectionOf item
  | .input .back => some .home
  | _ => none

/-- The section requested last, which is home in the beginning. -/
def lastRequested (events : List Event) : MenuSection :=
  events.foldl (fun sec e => e.request.getD sec) .home

/-- Only a request changes the section requested last. -/
theorem lastRequested_concat (events : List Event) (e : Event) :
    lastRequested (events ++ [e]) = e.request.getD (lastRequested events) := by
  simp [lastRequested]

/-- The inputs considered: items of the six sections, and back presses with the drawer closed
that do not exit. -/
def SectionsOnly (a : MainActivity) : Event → Prop
  | .input (.select item) => (sectionOf item).isSome
  | .input .back => a.drawerOpen = false ∧ a.navItemIndex.val ≠ 0
  | _ => True

/-- The fragment of a section under its tag. -/
def attachedOf (sec : MenuSection) : AttachedFragment := ⟨sec, sectionTag sec⟩

/-- A request is admitted unless its fragment is attached, no runnable waits to run, and a
transaction that shows another section is the last to wait. -/
def Admits (a : MainActivity) (sec : MenuSection) : Prop :=
  a.frame.current = some (attachedOf sec) → a.posted = 0 →
    a.frame.eventual = some (attachedOf sec)

/-- The static fields are those of a section, and every fragment is attached under the tag of
its own section. -/
structure Tracks (a : MainActivity) (sec : MenuSection) : Prop where
  navItemIndex : a.navItemIndex = sectionIndex sec
  currentTag : a.currentTag = sectionTag sec
  finished : a.finished = false
  tagged (attached : AttachedFragment)
    (hattached : some attached ∈ a.frame.current :: a.frame.pending) :
    attached = attachedOf attached.fragment

variable {a b : MainActivity} {sec requested : MenuSection}

/-- The app starts with the home section. -/
theorem tracks_fresh : Tracks fresh .home where
  navItemIndex := rfl
  currentTag := rfl
  finished := rfl
  tagged attached hattached := by
    have hnone : some attached ∈ [none] := hattached
    simp at hnone

/-- A section's tag finds the section's fragment. -/
theorem Tracks.findFragmentByTag (h : Tracks a sec) (requested : MenuSection) :
    (a.findFragmentByTag (sectionTag requested)).isSome ↔
      a.frame.current = some (attachedOf requested) := by
  unfold MainActivity.findFragmentByTag
  cases hcurrent : a.frame.current with
  | none => simp
  | some attached =>
    have htagged := h.tagged attached (by simp [hcurrent])
    by_cases htag : attached.tag = sectionTag requested
    · have hfragment : attached.fragment = requested := by
        rw [← sectionTag_inj, ← htag, htagged]
        rfl
      rw [hfragment] at htagged
      simp [htagged, attachedOf]
    · have hne : attached ≠ attachedOf requested := by
        rintro rfl
        exact htag rfl
      simp [htag, hne]

/-- What the frame comes to hold after a request. -/
theorem Tracks.eventual_requested (h : Tracks a sec) (hb : Requested a requested b) :
    b.eventual = some (attachedOf requested) ↔ a.Admits requested := by
  unfold MainActivity.eventual Admits
  rw [hb.posted, hb.frame, hb.navItemIndex, hb.currentTag, getHomeFragment_sectionIndex]
  by_cases hfound : (a.findFragmentByTag (sectionTag requested)).isSome = true
  · have hcurrent := (h.findFragmentByTag requested).mp hfound
    rw [if_pos hfound]
    by_cases hposted : a.posted = 0
    · rw [if_pos hposted]
      exact ⟨fun heventual _ _ => heventual, fun hadmits => hadmits hcurrent hposted⟩
    · -- the runnable that waits will show the section
      rw [if_neg hposted]
      exact ⟨fun _ _ hnone => absurd hnone hposted, fun _ => rfl⟩
  · have hcurrent : a.frame.current ≠ some (attachedOf requested) := fun hcurrent =>
      hfound ((h.findFragmentByTag requested).mpr hcurrent)
    rw [if_neg hfound, if_neg (Nat.succ_ne_zero _)]
    exact ⟨fun _ hattached => absurd hattached hcurrent, fun _ => rfl⟩

/-- After a request, the static fields are those of the section requested. -/
theorem Tracks.of_requested (h : Tracks a sec) (hb : Requested a requested b) :
    Tracks b requested where
  navItemIndex := hb.navItemIndex
  currentTag := hb.currentTag
  finished := by rw [hb.finished, h.finished]
  tagged := by
    rw [hb.frame]
    exact h.tagged

/-- The main loop only attaches fragments under their tags. -/
theorem Tracks.loopStep (h : Tracks a sec) (e : LoopStep) : Tracks (a.loopStep e) sec := by
  cases e with
  | runnable =>
    simp only [MainActivity.loopStep]
    cases a.posted with
    | zero => exact h
    | succ n =>
      refine ⟨h.navItemIndex, h.currentTag, h.finished, fun attached hattached => ?_⟩
      simp only [DelayedWrites.Register.write, ← List.cons_append] at hattached
      rcases List.mem_append.mp hattached with hold | hnew
      · exact h.tagged attached hold
      · rw [List.mem_singleton, Option.some.injEq, h.navItemIndex, h.currentTag,
          getHomeFragment_sectionIndex] at hnew
        rw [hnew]
        rfl
  | transaction =>
    refine ⟨h.navItemIndex, h.currentTag, h.finished, fun attached hattached => ?_⟩
    refine h.tagged attached ?_
    simp only [MainActivity.loopStep, DelayedWrites.Register.land] at hattached
    cases hpending : a.frame.pending with
    | nil => simpa [hpending] using hattached
    | cons next rest =>
      rw [hpending] at hattached
      exact List.mem_cons_of_mem _ hattached

/-- The main loop does not change what the frame comes to hold. -/
theorem eventual_loopStep (a : MainActivity) (e : LoopStep) :
    (a.loopStep e).eventual = a.eventual := by
  have hsettle := congrArg (fun a : MainActivity => a.frame.current) (a.settle_loopStep e)
  exact hsettle

/-- The activity has not finished. -/
theorem Tracks.not_finished (h : Tracks a sec) : ¬ a.finished = true := by
  rw [h.finished]
  exact Bool.false_ne_true

/-- An event that requests a section does what a request does. -/
theorem requested_step (h : Tracks a sec) {e : Event} (honly : SectionsOnly a e)
    (hrequest : e.request = some requested) : Requested a requested (a.step e) := by
  cases e with
  | loop e => cases hrequest
  | input e =>
    cases e with
    | openDrawer => cases hrequest
    | select item =>
      simp only [step, input, if_neg h.not_finished]
      exact requested_of_select a hrequest
    | back =>
      cases hrequest
      simp only [step, input, if_neg h.not_finished]
      exact requested_of_back honly.1 honly.2

/-- Any other event keeps the section and what the frame comes to hold. -/
theorem Tracks.step_of_none (h : Tracks a sec) {e : Event} (honly : SectionsOnly a e)
    (hrequest : e.request = none) :
    Tracks (a.step e) sec ∧ (a.step e).eventual = a.eventual := by
  cases e with
  | loop e => exact ⟨h.loopStep e, a.eventual_loopStep e⟩
  | input e =>
    cases e with
    | openDrawer =>
      simp only [step, input, if_neg h.not_finished]
      exact ⟨⟨h.navItemIndex, h.currentTag, h.finished, h.tagged⟩, rfl⟩
    | select item =>
      have hsome : (sectionOf item).isSome = true := honly
      rw [show sectionOf item = none from hrequest] at hsome
      cases hsome
    | back => cases hrequest

/-- **Run.** The static fields follow the requests, and the frame comes to hold the section
requested last if and only if the last request was admitted. -/
theorem run_tracks (events : List Event) (honly : Runs.Guarded step SectionsOnly fresh events) :
    Tracks (run events) (lastRequested events) ∧
      ((run events).eventual = some (attachedOf (lastRequested events)) ↔
        Runs.AtLast Event.request (fun earlier sec => (run earlier).Admits sec) events) := by
  induction events using List.reverseRecOn with
  | nil => exact ⟨tracks_fresh, ⟨fun _ => Runs.atLast_nil, fun _ => rfl⟩⟩
  | append_singleton events e ih =>
    obtain ⟨hbefore, hlast⟩ := Runs.guarded_concat.mp honly
    obtain ⟨htracks, heventual⟩ := ih hbefore
    rw [run_concat, lastRequested_concat]
    cases hrequest : e.request with
    | none =>
      obtain ⟨hsame, hsteady⟩ := htracks.step_of_none hlast hrequest
      rw [Option.getD_none, Runs.atLast_concat_of_none hrequest, hsteady]
      exact ⟨hsame, heventual⟩
    | some sec =>
      have hstep := requested_step htracks hlast hrequest
      rw [Option.getD_some, Runs.atLast_concat_of_some hrequest]
      exact ⟨htracks.of_requested hstep, htracks.eventual_requested hstep⟩

/-- **Section switching.** Whenever the main loop is idle, the fragment shown is that of the
section requested last if and only if that request was admitted when it came. -/
theorem section_shown_iff (events : List Event)
    (honly : Runs.Guarded step SectionsOnly fresh events) (hidle : (run events).Idle) :
    (run events).frame.current = some (attachedOf (lastRequested events)) ↔
      Runs.AtLast Event.request (fun earlier sec => (run earlier).Admits sec) events := by
  rw [← (run_tracks events honly).2, eventual, if_pos hidle.1,
    DelayedWrites.Register.current_of_pending_nil hidle.2]

/-- Coffee requested at home is shown once the main loop is idle. -/
theorem coffee_shown_after_home :
    (run [.loop .runnable, .loop .transaction, .input (.select .navNotifications),
      .loop .runnable, .loop .transaction]).frame.current = some (attachedOf .coffee) := by
  have hadmits : (run [.loop .runnable, .loop .transaction]).Admits .coffee := by
    intro hattached
    revert hattached
    decide
  have hcoffee : Event.request (.input (.select .navNotifications)) = some .coffee := rfl
  have hquiet : ∀ e, Event.request (.loop e) = none := fun _ => rfl
  have hrequest : Runs.AtLast Event.request (fun earlier sec => (run earlier).Admits sec)
      ([.loop .runnable, .loop .transaction] ++ [.input (.select .navNotifications)]) :=
    (Runs.atLast_concat_of_some hcoffee).mpr hadmits
  have hlast : Runs.AtLast Event.request (fun earlier sec => (run earlier).Admits sec)
      ([.loop .runnable, .loop .transaction, .input (.select .navNotifications)] ++
        [.loop .runnable] ++ [.loop .transaction]) :=
    (Runs.atLast_concat_of_none (hquiet _)).mpr
      ((Runs.atLast_concat_of_none (hquiet _)).mpr hrequest)
  have honly : Runs.Guarded step SectionsOnly fresh
      [.loop .runnable, .loop .transaction, .input (.select .navNotifications),
        .loop .runnable, .loop .transaction] := by
    simp [Runs.guarded_cons, SectionsOnly, sectionOf]
  exact (section_shown_iff _ honly ⟨rfl, rfl⟩).mpr hlast

/-- Home requested before the transaction for coffee was executed: coffee is shown, and the
title says home. -/
theorem coffee_shown_over_home :
    let events : List Event :=
      [.loop .runnable, .loop .transaction, .input (.select .navNotifications), .loop .runnable,
        .input (.select .navHome), .loop .transaction]
    Runs.Guarded step SectionsOnly fresh events ∧ (run events).Idle ∧
      lastRequested events = .home ∧ (run events).title = "Jazz on the Move" ∧
      (run events).frame.current = some (attachedOf .coffee) ∧
      (run events).frame.current ≠ some (attachedOf (lastRequested events)) := by
  refine ⟨?_, ⟨rfl, rfl⟩, rfl, rfl, rfl, ?_⟩
  · simp [Runs.guarded_cons, SectionsOnly, sectionOf]
  · decide

end MainActivity

end JazzOnTheMove.Android
