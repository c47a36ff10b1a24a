import JazzOnTheMove.Android.MainActivity
import JazzOnTheMove.Library.Runs

/-!
# Agreement of the navigation state

Between two inputs with an idle main loop, the index, the tag, the title and the
fragment should all belong to one section. A request for a section keeps them
together. The items of the submenu that reach the default case of the listener
reset the index alone.
-/

namespace JazzOnTheMove.Android

namespace MainActivity

/-- The tag that the listener pairs with an index. -/
def listenerTag (index : NavIndex) : String :=
  [tagHome, tagLeader, tagNotifications, tagProfile, tagEarn, tagLife].get (index.cast rfl)

@[simp] theorem listenerTag_sectionIndex (sec : MenuSection) :
    listenerTag (sectionIndex sec) = sectionTag sec := by
  cases sec <;> rfl

/-- Different indices are paired with different tags. -/
theorem listenerTag_inj {first second : NavIndex} :
    listenerTag first = listenerTag second ↔ first = second := by
  revert first second
  decide

/-- The four views of the current section agree. -/
structure Agrees (a : MainActivity) : Prop where
  /-- The fragment shown is the one for the index, attached under the current tag. -/
  frame : a.frame.current = some ⟨getHomeFragment a.navItemIndex, a.currentTag⟩
  tag : a.currentTag = listenerTag a.navItemIndex
  title : a.title = activityTitles.get a.navItemIndex

/-- One input, after which the main loop becomes idle: by `loop_eq_settle` there is only one
state it can come to. -/
def stepIdle (a : MainActivity) (e : Input) : MainActivity := (a.input e).settle

/-- The items for which the listener reaches its default case. -/
def DefaultCase : Input → Prop
  | .select .navFacebook => True
  | .select .navTwitter => True
  | .select .navInstagram => True
  | _ => False

/-- An idle activity whose views agree, and which was only left from home. -/
structure Resting (a : MainActivity) : Prop where
  agrees : a.Agrees
  idle : a.Idle
  left : a.finished = true → a.navItemIndex.val = 0

variable {a b : MainActivity}

/-- The frame of an idle activity is its eventual one. -/
theorem Resting.eventual (h : a.Resting) :
    a.frame.eventual = some ⟨getHomeFragment a.navItemIndex, a.currentTag⟩ := by
  rw [← DelayedWrites.Register.current_of_pending_nil h.idle.2, h.agrees.frame]

/-- Only the fragment of the current section is found. -/
theorem Resting.findFragmentByTag (h : a.Resting) (tag : String) :
    (a.findFragmentByTag tag).isSome ↔ a.currentTag = tag := by
  unfold MainActivity.findFragmentByTag
  rw [h.agrees.frame]
  by_cases htag : a.currentTag = tag
  · simp [htag]
  · simp [htag]

/-- After a request, the views agree on the section requested. -/
theorem Resting.requested (h : a.Resting) {sec : MenuSection} (hb : Requested a sec b) :
    b.settle.Agrees := by
  have hcurrent : b.eventual = some ⟨sec, sectionTag sec⟩ := by
    unfold MainActivity.eventual
    rw [hb.posted, hb.frame, hb.navItemIndex, hb.currentTag, getHomeFragment_sectionIndex]
    by_cases hfound : (a.findFragmentByTag (sectionTag sec)).isSome = true
    · -- the section was the current one already
      have htag := (h.findFragmentByTag _).mp hfound
      have hindex : a.navItemIndex = sectionIndex sec := by
        rw [← listenerTag_inj, listenerTag_sectionIndex, ← htag, h.agrees.tag]
      rw [if_pos hfound, if_pos h.idle.1, h.eventual, htag, hindex, getHomeFragment_sectionIndex]
    · rw [if_neg hfound, if_neg (Nat.succ_ne_zero _)]
  refine ⟨?_, ?_, ?_⟩
  · change b.eventual = some ⟨getHomeFragment b.navItemIndex, b.currentTag⟩
    rw [hcurrent, hb.navItemIndex, hb.currentTag, getHomeFragment_sectionIndex]
  · change b.currentTag = listenerTag b.navItemIndex
    rw [hb.currentTag, hb.navItemIndex, listenerTag_sectionIndex]
  · change b.title = activityTitles.get b.navItemIndex
    rw [hb.title, hb.navItemIndex]

/-- Inputs that leave the navigation state alone leave the views in agreement. -/
theorem Resting.unchanged (h : a.Resting) (hindex : b.navItemIndex = a.navItemIndex)
    (htag : b.currentTag = a.currentTag) (htitle : b.title = a.title) (hframe : b.frame = a.frame)
    (hposted : b.posted = a.posted) : b.settle.Agrees := by
  have hcurrent : b.eventual = some ⟨getHomeFragment b.navItemIndex, b.currentTag⟩ := by
    unfold MainActivity.eventual
    rw [if_pos (hposted.trans h.idle.1), hframe, h.eventual, hindex, htag]
  refine ⟨hcurrent, ?_, ?_⟩
  · change b.currentTag = listenerTag b.navItemIndex
    rw [htag, hindex, h.agrees.tag]
  · change b.title = activityTitles.get b.navItemIndex
    rw [htitle, hindex, h.agrees.title]

/-- The default case resets the index and keeps the tag, so that nothing is loaded. -/
theorem Resting.defaultCase (h : a.Resting) {item : DrawerItem}
    (hitem : DefaultCase (.select item)) :
    (a.onNavigationItemSelected item).settle.Agrees ↔ a.navItemIndex.val = 0 := by
  have hselect : a.selectItem item = some { a with navItemIndex := ⟨0, by decide⟩ } := by
    cases item <;> first | rfl | cases hitem
  obtain ⟨checked, hresult⟩ := onNavigationItemSelected_of_some hselect
  have hfound : (a.findFragmentByTag a.currentTag).isSome = true :=
    (h.findFragmentByTag _).mpr rfl
  have hposted : (a.onNavigationItemSelected item).posted = a.posted := by
    rw [hresult]
    exact if_pos hfound
  constructor
  · intro hagrees
    -- the tag is still that of the section the user came from
    have htag := hagrees.tag
    rw [hresult] at htag
    change a.currentTag = listenerTag ⟨0, by decide⟩ at htag
    rw [h.agrees.tag, listenerTag_inj] at htag
    rw [htag]
  · intro hindex
    have hsame : a.navItemIndex = ⟨0, by decide⟩ := Fin.ext hindex
    refine h.unchanged ?_ ?_ ?_ ?_ hposted
    · rw [hresult, hsame]
    · rw [hresult]
    · rw [hresult, h.agrees.title, hsame]
    · rw [hresult]

/-- **Step.** From a resting activity whose views agree, an input keeps them in agreement
unless it is one of the default case outside the home section. -/
theorem Resting.agrees_iff (h : a.Resting) (e : Input) :
    (a.stepIdle e).Agrees ↔ (DefaultCase e → a.navItemIndex.val = 0) := by
  unfold stepIdle input
  by_cases hfinished : a.finished = true
  · rw [if_pos hfinished]
    exact ⟨fun _ _ => h.left hfinished, fun _ => h.unchanged rfl rfl rfl rfl rfl⟩
  · rw [if_neg hfinished]
    cases e with
    | openDrawer => exact ⟨fun _ hcase => hcase.elim, fun _ => h.unchanged rfl rfl rfl rfl rfl⟩
    | back =>
      refine ⟨fun _ hcase => hcase.elim, fun _ => ?_⟩
      by_cases hdrawer : a.drawerOpen = true
      · simp only [onBackPressed, if_pos hdrawer]
        exact h.unchanged rfl rfl rfl rfl rfl
      · by_cases hindex : a.navItemIndex.val ≠ 0
        · exact h.requested (requested_of_back (by simpa using hdrawer) hindex)
        · simp only [onBackPressed, if_neg hdrawer, if_neg hindex]
          exact h.unchanged rfl rfl rfl rfl rfl
    | select item =>
      cases hsection : sectionOf item with
      | some sec =>
        have hcase : ¬ DefaultCase (.select item) := by
          cases item <;> first | exact id | cases hsection
        exact ⟨fun _ hdefault => absurd hdefault hcase,
          fun _ => h.requested (requested_of_select a hsection)⟩
      | none =>
        by_cases hcase : DefaultCase (.select item)
        · exact (h.defaultCase hcase).trans ⟨fun hindex _ => hindex, fun hindex => hindex hcase⟩
        · -- the toast of the item that is still to come
          have htoast : item = .navAboutUs := by
            cases item <;> first | rfl | exact absurd trivial hcase | cases hsection
          subst htoast
          exact ⟨fun _ hdefault => absurd hdefault hcase,
            fun _ => h.unchanged rfl rfl rfl rfl rfl⟩

/-- Selecting an item does not finish the activity. -/
theorem onNavigationItemSelected_finished (a : MainActivity) (item : DrawerItem) :
    (a.onNavigationItemSelected item).finished = a.finished := by
  cases hselect : a.selectItem item with
  | none =>
    unfold onNavigationItemSelected
    rw [hselect]
  | some b =>
    obtain ⟨checked, hresult⟩ := onNavigationItemSelected_of_some hselect
    have hb : b.finished = a.finished := by
      cases item <;> cases hselect <;> rfl
    rw [hresult]
    exact hb

/-- The activity is only finished from home. -/
theorem Resting.input_left (h : a.Resting) {e : Input} (hfinished : (a.input e).finished = true) :
    (a.input e).navItemIndex.val = 0 := by
  unfold input at hfinished ⊢
  by_cases hbefore : a.finished = true
  · rw [if_pos hbefore]
    exact h.left hbefore
  · rw [if_neg hbefore] at hfinished ⊢
    cases e with
    | openDrawer => exact absurd hfinished hbefore
    | select item =>
      simp only [onNavigationItemSelected_finished] at hfinished
      exact absurd hfinished hbefore
    | back =>
      by_cases hdrawer : a.drawerOpen = true
      · simp only [onBackPressed, if_pos hdrawer] at hfinished
        exact absurd hfinished hbefore
      · by_cases hindex : a.navItemIndex.val ≠ 0
        · have hback := requested_of_back (by simpa using hdrawer) hindex
          rw [hback.finished] at hfinished
          exact absurd hfinished hbefore
        · simp only [onBackPressed, if_neg hdrawer, if_neg hindex]
          exact not_not.mp hindex

/-- After an input that keeps the views in agreement, the activity rests again. -/
theorem Resting.step (h : a.Resting) {e : Input} (hagrees : (a.stepIdle e).Agrees) :
    (a.stepIdle e).Resting :=
  ⟨hagrees, ⟨rfl, rfl⟩, fun hfinished => h.input_left hfinished⟩

/-- The activity rests once it was started. -/
theorem resting_fresh : fresh.settle.Resting :=
  ⟨⟨rfl, rfl, rfl⟩, ⟨rfl, rfl⟩, fun _ => rfl⟩

/-- **Navigation state.** After every input of a run, with the main loop idle in between,
the index, the tag, the title and the fragment agree if and only if the items of the default
case are only selected while the section is home. -/
theorem navigation_agrees_iff (inputs : List Input) :
    Runs.AfterEach stepIdle (fun a _ => a.Agrees) fresh.settle inputs ↔
      Runs.Guarded stepIdle (fun a e => DefaultCase e → a.navItemIndex.val = 0)
        fresh.settle inputs :=
  Runs.afterEach_iff_guarded (fun _ e h => Resting.agrees_iff h e) (fun _ _ h => Resting.step h)
    resting_fresh

/-- Facebook selected in the coffee section: the title is that of home, over the coffee
fragment. -/
theorem default_case_disagrees :
    let a := (fresh.settle.stepIdle (.select .navNotifications)).stepIdle (.select .navFacebook)
    a.title = "Jazz on the Move" ∧ a.frame.current = some ⟨.coffee, "Coffee"⟩ ∧
      ¬ Runs.AfterEach stepIdle (fun a _ => a.Agrees) fresh.settle
        [.select .navNotifications, .select .navFacebook] := by
  refine ⟨rfl, rfl, fun h => ?_⟩
  have hlast := h [.select .navNotifications] (.select .navFacebook) (List.prefix_refl _)
  have htag := hlast.tag
  revert htag
  decide

end MainActivity

end JazzOnTheMove.Android
