import JazzOnTheMove.IOS.IntroVC
import JazzOnTheMove.Library.Runs
import Mathlib.Data.List.Induction

/-!
# How many taps the onboarding screen survives

The page counter counts the second completions. The test for the last page is an
equality, so the main screen is shown by the completion that reaches the number of
items, and the next one reads an item that does not exist.
-/

namespace JazzOnTheMove.IOS

namespace IntroVC

variable {Image : Type} {items : List (OnBoardingItem Image)} {events : List Event}
  {vc : IntroVC Image}

/-- One more event in a run. -/
theorem run_concat (items : List (OnBoardingItem Image)) (events : List Event) (e : Event) :
    run items (events ++ [e]) = run items events >>= fun vc => vc.step e := by
  simp [run, List.foldlM_append]

/-- The screen after a run in which no page beyond the last was turned to. -/
structure Turned (items : List (OnBoardingItem Image)) (events : List Event)
    (vc : IntroVC Image) : Prop where
  list : vc.items = items
  currentPage : vc.currentPage = events.count .secondStage
  firstStages : vc.firstStages + events.count .firstStage = events.count .tap
  secondStages : vc.secondStages + events.count .secondStage = events.count .firstStage
  mainAppShown : vc.mainAppShown = if events.count .secondStage = items.length then 1 else 0

/-- With at least one item, the screen appears. -/
theorem turned_viewDidLoad (hitems : items ≠ []) :
    ∃ vc, viewDidLoad items = .ok vc ∧ Turned items [] vc := by
  obtain ⟨first, rest, rfl⟩ := List.exists_cons_of_ne_nil hitems
  refine ⟨_, rfl, rfl, rfl, rfl, rfl, ?_⟩
  rw [if_neg]
  simp

/-- A tap that reaches the screen starts its first animation. -/
theorem Turned.tap (h : Turned items events vc) (hcan : CanHappen items.length events .tap) :
    ∃ next, vc.step .tap = .ok next ∧ Turned items (events ++ [.tap]) next := by
  have hopen : vc.mainAppShown = 0 := by
    rw [h.mainAppShown, if_neg (Nat.ne_of_lt hcan)]
  refine ⟨vc.handleTapAnimation, by simp only [step, if_pos hopen], ?_⟩
  have hfirst := h.firstStages
  refine ⟨h.list, ?_, ?_, ?_, ?_⟩
  · simpa [handleTapAnimation] using h.currentPage
  · simp [handleTapAnimation]
    omega
  · simpa [handleTapAnimation] using h.secondStages
  · simpa [handleTapAnimation] using h.mainAppShown

/-- The first completion of a tap never reads beyond the last item. -/
theorem Turned.firstStage (h : Turned items events vc)
    (hcan : CanHappen items.length events .firstStage) :
    ∃ next, vc.step .firstStage = .ok next ∧ Turned items (events ++ [.firstStage]) next := by
  have hfirst := h.firstStages
  have hsecond := h.secondStages
  have hpending : vc.firstStages ≠ 0 := by
    have hlt : events.count .firstStage < events.count .tap := hcan
    omega
  -- the next image is shown if there is one
  obtain ⟨next, hnext, himage⟩ : ∃ next, vc.firstStage = .ok next ∧ next =
      { vc with
        firstStages := vc.firstStages - 1
        secondStages := vc.secondStages + 1
        coverImg := next.coverImg } := by
    unfold IntroVC.firstStage
    by_cases hmore : vc.currentPage < vc.items.length - 1
    · have hlt : vc.currentPage + 1 < vc.items.length := by omega
      rw [if_pos hmore]
      simp only [updateImage, subscript_of_lt hlt]
      exact ⟨_, rfl, rfl⟩
    · rw [if_neg hmore]
      exact ⟨_, rfl, rfl⟩
  refine ⟨next, by simp only [step, if_neg hpending, hnext], ?_⟩
  rw [himage]
  refine ⟨h.list, ?_, ?_, ?_, ?_⟩
  · simpa using h.currentPage
  · simp
    omega
  · simp
    omega
  · simpa using h.mainAppShown

/-- A second completion is only possible if one is pending. -/
theorem Turned.secondStages_ne_zero (h : Turned items events vc)
    (hcan : CanHappen items.length events .secondStage) : vc.secondStages ≠ 0 := by
  have hbehind : events.count .secondStage < events.count .firstStage := hcan
  have hsecond := h.secondStages
  omega

/-- The second completion of a tap turns the page while there is one to turn. -/
theorem Turned.secondStage (h : Turned items events vc)
    (hcan : CanHappen items.length events .secondStage)
    (hlt : events.count .secondStage < items.length) :
    ∃ next, vc.step .secondStage = .ok next ∧ Turned items (events ++ [.secondStage]) next := by
  have hpending := h.secondStages_ne_zero hcan
  obtain ⟨rfl, hpage, hfirst, hsecond, hshown⟩ := h
  rw [if_neg (Nat.ne_of_lt hlt)] at hshown
  simp only [step, if_neg hpending, IntroVC.secondStage, lastItem, decide_eq_true_eq]
  by_cases hlast : vc.currentPage + 1 = vc.items.length
  · refine ⟨_, if_pos hlast, rfl, ?_, ?_, ?_, ?_⟩
    · simp [showMainApp, hpage]
    · simpa [showMainApp] using hfirst
    · simp [showMainApp]
      omega
    · rw [hpage] at hlast
      simp [showMainApp, hshown, hlast]
  · have hin : vc.currentPage + 1 < vc.items.length := by omega
    rw [if_neg hlast]
    simp only [setupScreen, subscript_of_lt hin]
    refine ⟨_, rfl, rfl, ?_, ?_, ?_, ?_⟩
    · simp [hpage]
    · simpa using hfirst
    · simp
      omega
    · rw [hpage] at hlast
      simp [hshown, hlast]

/-- One more second completion reads beyond the last item. -/
theorem Turned.secondStage_trap (h : Turned items events vc)
    (hcan : CanHappen items.length events .secondStage)
    (hpast : events.count .secondStage = items.length) :
    vc.step .secondStage = .error (.indexOutOfRange (items.length + 1) items.length) := by
  have hpending := h.secondStages_ne_zero hcan
  obtain ⟨rfl, hpage, _, _, _⟩ := h
  have hlast : ¬ vc.currentPage + 1 = vc.items.length := by omega
  have hout : vc.items.length ≤ vc.currentPage + 1 := by omega
  simp only [step, if_neg hpending, IntroVC.secondStage, lastItem, decide_eq_true_eq, if_neg hlast,
    setupScreen, subscript_of_le hout]
  rw [hpage, hpast]
  rfl

/-! ## Runs -/

/-- The runs that can happen with a number of items. -/
def PossibleRun (n : ℕ) (events : List Event) : Prop := Runs.Possible (CanHappen n) events

instance (n : ℕ) (earlier : List Event) : (e : Event) → Decidable (CanHappen n earlier e)
  | .tap => inferInstanceAs (Decidable (_ < _))
  | .firstStage => inferInstanceAs (Decidable (_ < _))
  | .secondStage => inferInstanceAs (Decidable (_ < _))

instance (n : ℕ) (events : List Event) : Decidable (PossibleRun n events) :=
  inferInstanceAs (Decidable (Runs.Possible _ _))

/-- Counts only grow along a run. -/
private theorem count_le_concat (events : List Event) (e d : Event) :
    events.count d ≤ (events ++ [e]).count d := by
  rw [List.count_append]
  omega

/-- **Run.** As long as no more second completions ran than there are items, nothing traps. -/
theorem exists_turned (hitems : items ≠ []) (events : List Event)
    (hpossible : PossibleRun items.length events)
    (hle : events.count .secondStage ≤ items.length) :
    ∃ vc, run items events = .ok vc ∧ Turned items events vc := by
  induction events using List.reverseRecOn with
  | nil =>
    obtain ⟨vc, hvc, hturned⟩ := turned_viewDidLoad hitems
    refine ⟨vc, ?_, hturned⟩
    rw [run, hvc]
    rfl
  | append_singleton events e ih =>
    obtain ⟨hbefore, hcan⟩ := Runs.possible_concat.mp hpossible
    obtain ⟨vc, hvc, hturned⟩ := ih hbefore
      (Nat.le_trans (count_le_concat events e .secondStage) hle)
    have hnext : ∃ next, vc.step e = .ok next ∧ Turned items (events ++ [e]) next := by
      cases e with
      | tap => exact hturned.tap hcan
      | firstStage => exact hturned.firstStage hcan
      | secondStage =>
        refine hturned.secondStage hcan ?_
        rw [List.count_append, List.count_singleton_self] at hle
        omega
    obtain ⟨next, hstep, hend⟩ := hnext
    refine ⟨next, ?_, hend⟩
    rw [run_concat, hvc]
    exact hstep

/-- The second completion after the one that showed the main screen traps, and nothing
happens afterwards. -/
theorem run_trap (hitems : items ≠ []) (events : List Event)
    (hpossible : PossibleRun items.length events)
    (hlt : items.length < events.count .secondStage) :
    run items events = .error (.indexOutOfRange (items.length + 1) items.length) := by
  induction events using List.reverseRecOn with
  | nil => simp at hlt
  | append_singleton events e ih =>
    obtain ⟨hbefore, hcan⟩ := Runs.possible_concat.mp hpossible
    rw [run_concat]
    by_cases hearlier : items.length < events.count .secondStage
    · rw [ih hbefore hearlier]
      rfl
    · -- this is the completion that reads beyond the last item
      obtain ⟨vc, hvc, hturned⟩ := exists_turned hitems events hbefore (Nat.le_of_not_lt hearlier)
      have hlast : e = .secondStage ∧ events.count .secondStage = items.length := by
        rw [List.count_append, List.count_singleton] at hlt
        by_cases hsecond : e = .secondStage
        · subst hsecond
          simp at hlt
          exact ⟨rfl, by omega⟩
        · simp [hsecond] at hlt
          omega
      obtain ⟨rfl, hpast⟩ := hlast
      rw [hvc]
      exact hturned.secondStage_trap hcan hpast

/-- In a possible run there are never more completions than taps. -/
theorem PossibleRun.count_le {n : ℕ} (hpossible : PossibleRun n events) :
    events.count .secondStage ≤ events.count .firstStage ∧
      events.count .firstStage ≤ events.count .tap := by
  induction events using List.reverseRecOn with
  | nil => simp
  | append_singleton events e ih =>
    obtain ⟨hbefore, hcan⟩ := Runs.possible_concat.mp hpossible
    obtain ⟨hsecond, hfirst⟩ := ih hbefore
    cases e with
    | tap =>
      simp
      omega
    | firstStage =>
      have hlt : events.count .firstStage < events.count .tap := hcan
      simp
      omega
    | secondStage =>
      have hlt : events.count .secondStage < events.count .firstStage := hcan
      simp
      omega

/-- **Onboarding.** A run of taps and completions, overlapping in any way, reads only items
that exist and shows the main screen at most once if and only if no more taps complete
than there are items. Once every tap has completed, this is the number of taps. -/
theorem survives_iff (items : List (OnBoardingItem Image)) (hitems : items ≠ [])
    (events : List Event) (hpossible : PossibleRun items.length events) :
    (Survives items events ↔ events.count .secondStage ≤ items.length) ∧
      (events.count .tap ≤ items.length → Survives items events) ∧
      (events.count .secondStage = events.count .tap → Survives items events →
        events.count .tap ≤ items.length) := by
  have hsurvives : Survives items events ↔ events.count .secondStage ≤ items.length := by
    constructor
    · rintro ⟨vc, hvc, _⟩
      by_contra hmore
      rw [run_trap hitems events hpossible (Nat.lt_of_not_le hmore)] at hvc
      cases hvc
    · intro hle
      obtain ⟨vc, hvc, hturned⟩ := exists_turned hitems events hpossible hle
      refine ⟨vc, hvc, ?_⟩
      rw [hturned.mainAppShown]
      split <;> omega
  obtain ⟨hsecond, hfirst⟩ := hpossible.count_le
  refine ⟨hsurvives, fun htaps => hsurvives.mpr (by omega), fun hdone h => ?_⟩
  have hle := hsurvives.mp h
  omega

/-- The four shipped pages survive four taps in a row. -/
theorem survives_four_taps :
    Survives (OnBoardingItem.placeholderItems some)
      [.tap, .tap, .tap, .tap, .firstStage, .firstStage, .firstStage, .firstStage,
        .secondStage, .secondStage, .secondStage, .secondStage] :=
  (survives_iff (OnBoardingItem.placeholderItems some) (by simp [OnBoardingItem.placeholderItems])
    [.tap, .tap, .tap, .tap, .firstStage, .firstStage, .firstStage, .firstStage,
      .secondStage, .secondStage, .secondStage, .secondStage] (by decide)).2.1 (by decide)

/-- A fifth tap before the first has completed ends the app. -/
theorem fifth_tap_traps :
    let events : List Event :=
      [.tap, .tap, .tap, .tap, .tap,
        .firstStage, .firstStage, .firstStage, .firstStage, .firstStage,
        .secondStage, .secondStage, .secondStage, .secondStage, .secondStage]
    PossibleRun 4 events ∧
      run (OnBoardingItem.placeholderItems some) events = .error (.indexOutOfRange 5 4) ∧
      ¬ Survives (OnBoardingItem.placeholderItems some) events := by
  refine ⟨by decide, rfl, ?_⟩
  rintro ⟨vc, hvc, _⟩
  cases hvc

end IntroVC

end JazzOnTheMove.IOS
