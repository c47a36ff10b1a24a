import JazzOnTheMove.Android.Navigation

/-!
# Recreating the main activity

A recreated activity finds its fragment restored. The static fields have survived, or
are initialised again if the process died. The title is the activity's label again,
because `onCreate` only loads a section, and sets its title, without a saved state.
-/

namespace JazzOnTheMove.Android

namespace MainActivity

/-- There is a first title. -/
theorem activityTitles_length_pos : 0 < activityTitles.length := by decide

/-- The activity created again from its saved state, in the same process or after the
process died. -/
def recreate (a : MainActivity) (died : Bool) : MainActivity :=
  if died then onCreate ⟨0, activityTitles_length_pos⟩ tagHome (some a.frame.current)
  else onCreate a.navItemIndex a.currentTag (some a.frame.current)

/-- Two activities that show the same section. -/
structure SameSection (a b : MainActivity) : Prop where
  frame : b.frame.current = a.frame.current
  navItemIndex : b.navItemIndex = a.navItemIndex
  currentTag : b.currentTag = a.currentTag
  title : b.title = a.title

variable {a : MainActivity}

/-- The fragment is restored in either case. -/
theorem recreate_frame (a : MainActivity) (died : Bool) :
    (a.recreate died).frame.current = a.frame.current := by
  cases died <;> rfl

/-- The title is the label. -/
theorem recreate_title (a : MainActivity) (died : Bool) :
    (a.recreate died).title = "Jazz on the Move" := by
  cases died <;> rfl

/-- Home is the only section whose title is the label. -/
theorem activityTitles_get_eq_label_iff (index : NavIndex) :
    activityTitles.get index = "Jazz on the Move" ↔ index.val = 0 := by
  revert index
  decide

/-- Of a resting activity, only the home section is preserved. -/
theorem Resting.sameSection_recreate_iff (h : a.Resting) (died : Bool) :
    a.SameSection (a.recreate died) ↔ a.navItemIndex.val = 0 := by
  constructor
  · intro hsame
    have htitle := hsame.title
    rw [recreate_title, h.agrees.title] at htitle
    exact (activityTitles_get_eq_label_iff _).mp htitle.symm
  · intro hhome
    have hindex : a.navItemIndex = ⟨0, by decide⟩ := Fin.ext hhome
    have htag : a.currentTag = tagHome := by
      rw [h.agrees.tag, hindex]
      rfl
    have htitle : a.title = "Jazz on the Move" := by
      rw [h.agrees.title, activityTitles_get_eq_label_iff]
      exact hhome
    refine ⟨recreate_frame a died, ?_, ?_, (recreate_title a died).trans htitle.symm⟩
    · rw [hindex]
      cases died with
      | true => rfl
      | false => exact hindex
    · rw [htag]
      cases died with
      | true => rfl
      | false => exact htag

/-- Sections and back presses keep the activity resting. -/
theorem Resting.run (h : a.Resting) {inputs : List Input}
    (hinputs : ∀ e ∈ inputs, ¬ DefaultCase e) : (inputs.foldl stepIdle a).Resting := by
  refine Runs.invariant_of_guarded (fun b e hb he => ?_) h (Runs.guarded_of_forall hinputs)
  exact hb.step ((hb.agrees_iff e).mpr fun hcase => absurd hcase he)

/-- **Recreation.** Wherever sections and back presses have led, with the main loop idle
after each, the activity shows the same section after it was recreated exactly if that
section is home. -/
theorem recreation_preserves_iff (inputs : List Input)
    (hinputs : ∀ e ∈ inputs, ¬ DefaultCase e) (died : Bool) :
    (inputs.foldl stepIdle fresh.settle).SameSection
        ((inputs.foldl stepIdle fresh.settle).recreate died) ↔
      (inputs.foldl stepIdle fresh.settle).navItemIndex.val = 0 :=
  (resting_fresh.run hinputs).sameSection_recreate_iff died

/-- Back at home after another section, the process dies. -/
theorem home_recreated :
    let a := [Input.select .navNotifications, .back].foldl stepIdle fresh.settle
    a.SameSection (a.recreate true) :=
  (recreation_preserves_iff [.select .navNotifications, .back] (by simp [DefaultCase]) true).mpr
    rfl

/-- The coffee section is left with the title of home, and after the process died with the
static fields of home too. -/
theorem coffee_not_recreated :
    let a := [Input.select .navNotifications].foldl stepIdle fresh.settle
    (∀ e ∈ [Input.select .navNotifications], ¬ DefaultCase e) ∧
      ¬ a.SameSection (a.recreate false) ∧ ¬ a.SameSection (a.recreate true) ∧
      (a.recreate true).frame.current = some ⟨.coffee, "Coffee"⟩ ∧
      (a.recreate true).currentTag = "home" := by
  refine ⟨by simp [DefaultCase], fun h => ?_, fun h => ?_, rfl, rfl⟩
  · exact absurd h.title (by decide)
  · exact absurd h.title (by decide)

end MainActivity

end JazzOnTheMove.Android
