import JazzOnTheMove.IOS.CarouselPages

/-!
# Which picture of a carousel is in sight

A scroll ends with some picture in sight, and the carousel then jumps back to its center.
The jump goes unnoticed if the picture of the new page is the one that was in sight. It is
for every scroll that starts at the center, but not for one that catches a moving carousel.
-/

namespace JazzOnTheMove.IOS

open Pager (Place)

variable {URL Image : Type}

namespace KSICInfiniteCoordinator

/-- The picture of a page, where pages are counted on over the last one. -/
def pictureAt (coord : KSICInfiniteCoordinator URL) (page : ℤ) : Option URL :=
  coord.model[(page % coord.model.length).toNat]?

variable {coord : KSICInfiniteCoordinator URL}

/-- Every page has a picture. -/
theorem isSome_pictureAt (hcount : 0 < coord.model.length) (page : ℤ) :
    (coord.pictureAt page).isSome := by
  have hpos : (0 : ℤ) < coord.model.length := by exact_mod_cast hcount
  have hlt := Int.emod_lt_of_pos page hpos
  have hnonneg := Int.emod_nonneg page hpos.ne'
  rw [pictureAt, List.getElem?_eq_getElem (by omega)]
  rfl

/-- Pages with the same picture are the same, if all pictures are different. -/
theorem emod_eq_of_pictureAt_eq (hcount : 0 < coord.model.length) (hnodup : coord.model.Nodup)
    {page other : ℤ} (hsame : coord.pictureAt page = coord.pictureAt other) :
    page % coord.model.length = other % coord.model.length := by
  have hpos : (0 : ℤ) < coord.model.length := by exact_mod_cast hcount
  have hlt := Int.emod_lt_of_pos page hpos
  have hnonneg := Int.emod_nonneg page hpos.ne'
  have hother := Int.emod_nonneg other hpos.ne'
  have hindex := (List.getElem?_inj (by omega) hnodup).mp hsame
  omega

end KSICInfiniteCoordinator

/-- The events with which a scroll ends. -/
def CarouselEvent.EndsScroll : CarouselEvent URL Image → Prop
  | .didEndDecelerating | .didEndScrollingAnimation => True
  | _ => False

/-- A scroll that ends stops the pager. -/
theorem CarouselEvent.EndsScroll.move {e : CarouselEvent URL Image} (he : e.EndsScroll)
    (autoScrolls : Bool) : e.move autoScrolls = some .stop := by
  cases e <;> first | rfl | exact False.elim he

/-- The index of the image view at a place. -/
def imageViewAt : Place → ℕ
  | .first => 0
  | .center => 1
  | .last => 2

namespace Carousel

/-- The address of the picture in sight. -/
def inSight (c : Carousel URL Image) : Option URL :=
  (c.carousel.imageViews.findIdx? fun view =>
    view.frameX = c.carousel.scrollView.contentOffset).bind fun i => c.carousel.viewModel[i]?

variable {coord : KSICInfiniteCoordinator URL} {s : Pager.State ℚ} {c : Carousel URL Image}

/-- The image view at a place shows the picture of the page there. -/
theorem Follows.viewModel_at (hc : Follows coord s c) (place : Place) :
    c.carousel.viewModel[imageViewAt place]? = coord.pictureAt (s.page + place.turn) := by
  have hmodel : c.coord.model = coord.model := by rw [hc.coordinator]
  have hpage := hc.sound.page
  have hcount : 0 < coord.model.length := by rw [← hmodel]; omega
  rw [hc.sound.viewModel]
  obtain ⟨hfirst, hcenter, hlast⟩ := KSICInfiniteCoordinator.getElem?_window hpage
  unfold KSICInfiniteCoordinator.pictureAt
  cases place with
  | first =>
    rw [imageViewAt, hfirst, hmodel, Place.turn, ← pageBefore_cast hcount hc.page,
      Int.toNat_natCast]
  | center =>
    rw [imageViewAt, hcenter, hmodel, Place.turn, Int.add_zero, ← hc.page, Int.toNat_natCast]
  | last =>
    rw [imageViewAt, hlast, hmodel, Place.turn, ← pageAfter_cast hc.page, Int.toNat_natCast]

/-- The picture in sight is that of the place where the scroll view is. -/
theorem Follows.inSight_eq (hc : Follows coord s c) (hwidth : 0 < s.width) {place : Place}
    (hplace : s.offset = place.position s.width) :
    c.inSight = coord.pictureAt (s.page + place.turn) := by
  rw [← hc.viewModel_at]
  obtain ⟨first, second, third, hviews⟩ := List.length_eq_three.mp hc.sound.imageViews
  have hframes := hc.frames
  simp only [hviews, List.map_cons, List.map_nil, List.cons.injEq, and_true] at hframes
  obtain ⟨hfirst, hsecond, hthird⟩ := hframes
  have hthird' : (0 : ℚ) ≠ s.width + s.width := (add_pos hwidth hwidth).ne
  unfold inSight
  rw [hviews, hc.offset, hplace]
  cases place <;>
    simp [List.findIdx?_cons, hfirst, hsecond, hthird, Place.position, imageViewAt, hwidth.ne,
      hwidth.ne', hthird']

/-- Between the places no picture is in sight. -/
theorem Follows.inSight_eq_none (hc : Follows coord s c)
    (hplace : ∀ place : Place, s.offset ≠ place.position s.width) : c.inSight = none := by
  obtain ⟨first, second, third, hviews⟩ := List.length_eq_three.mp hc.sound.imageViews
  have hframes := hc.frames
  simp only [hviews, List.map_cons, List.map_nil, List.cons.injEq, and_true] at hframes
  obtain ⟨hfirst, hsecond, hthird⟩ := hframes
  have hoff : 0 ≠ s.offset := (hplace .first).symm
  have hoff' : s.width ≠ s.offset := (hplace .center).symm
  have hoff'' : s.width + s.width ≠ s.offset := (hplace .last).symm
  unfold inSight
  rw [hviews, hc.offset]
  simp [List.findIdx?_cons, hfirst, hsecond, hthird, hoff, hoff', hoff'']

variable {d : Carousel URL Image}

/-- After a scroll that turned the page, the picture of the new page is in sight. -/
theorem Follows.inSight_of_turned (hended : Follows coord (Pager.step s .stop) d)
    (hwidth : 0 < s.width) (hturned : s.direction ≠ 0) :
    d.inSight = coord.pictureAt (s.page + s.direction) := by
  have hcenter : (Pager.step s .stop).offset = Place.center.position s.width := by
    change (if s.direction = 0 then s.offset else Pager.centerOf s.width) = s.width
    rw [if_neg hturned, Pager.centerOf_of_pos hwidth]
  rw [hended.inSight_eq hwidth hcenter, Place.turn, Int.add_zero]
  rfl

/-- A scroll that the pager keeps in sight keeps its picture in sight. -/
theorem Follows.kept (hc : Follows coord s c) (hended : Follows coord (Pager.step s .stop) d)
    (hkeeps : s.KeepsSight) :
    ∃ url, c.inSight = some url ∧ d.inSight = some url := by
  have hcount : 0 < coord.model.length := by
    have hpage := hc.sound.page
    rw [hc.coordinator] at hpage
    exact Nat.lt_of_le_of_lt (Nat.zero_le _) hpage
  obtain ⟨hwidth, place, hplace, hdirection⟩ := hkeeps
  obtain ⟨url, hurl⟩ := Option.isSome_iff_exists.mp
    (KSICInfiniteCoordinator.isSome_pictureAt hcount (s.page + place.turn))
  refine ⟨url, by rw [hc.inSight_eq hwidth hplace, hurl], ?_⟩
  by_cases hstays : s.direction = 0
  · have hoffset : (Pager.step s .stop).offset = place.position s.width := by
      change (if s.direction = 0 then s.offset else Pager.centerOf s.width) = _
      rw [if_pos hstays, hplace]
    have hpage : (Pager.step s .stop).page = s.page := by
      change s.page + s.direction = s.page
      rw [hstays, Int.add_zero]
    rw [hended.inSight_eq hwidth hoffset, hpage, hurl]
  · rw [hended.inSight_of_turned hwidth hstays, hdirection.resolve_left hstays, hurl]

/-- With three different pictures or more, no other scroll keeps its picture in sight. -/
theorem Follows.keepsSight (hc : Follows coord s c) (hended : Follows coord (Pager.step s .stop) d)
    (hwidth : 0 < s.width) (hcount : 3 ≤ coord.model.length) (hnodup : coord.model.Nodup)
    (hkept : ∃ url, c.inSight = some url ∧ d.inSight = some url) : s.KeepsSight := by
  obtain ⟨url, hbefore, hafter⟩ := hkept
  obtain ⟨place, hplace⟩ : ∃ place : Place, s.offset = place.position s.width := by
    by_contra hnone
    rw [not_exists] at hnone
    rw [hc.inSight_eq_none hnone] at hbefore
    cases hbefore
  refine ⟨hwidth, place, hplace, or_iff_not_imp_left.mpr fun hturned => ?_⟩
  rw [hc.inSight_eq hwidth hplace, ← hafter, hended.inSight_of_turned hwidth hturned] at hbefore
  have hsame := KSICInfiniteCoordinator.emod_eq_of_pictureAt_eq (by omega) hnodup hbefore
  -- Both pages are at most one away from the current one, so they differ by less than three.
  have hdvd : (coord.model.length : ℤ) ∣ place.turn - s.direction := by
    rw [← Int.add_sub_add_left s.page]
    exact Int.dvd_of_emod_eq_zero (Int.emod_eq_emod_iff_emod_sub_eq_zero.mp hsame)
  have hsmall : (place.turn - s.direction).natAbs < (coord.model.length : ℤ).natAbs := by
    have hdirection := s.direction_bounds
    have hturn := place.turn_bounds
    omega
  have hzero := Int.eq_zero_of_dvd_of_natAbs_lt_natAbs hdvd hsmall
  omega

/-! ## Runs -/

/-- Once it has been laid out, the pager keeps some width. -/
theorem width_pos_of_laidOut (coord : KSICInfiniteCoordinator URL) {width : ℚ} (hwidth : 0 < width)
    {earlier : List (CarouselEvent URL Image)}
    (hwidths : ∀ width, .didLayoutSubviews width ∈ earlier → 0 < width) :
    0 < (pager coord (.didLayoutSubviews width :: earlier)).width := by
  induction earlier using List.reverseRecOn with
  | nil => exact hwidth
  | append_singleton earlier e ih =>
    have hbefore := ih fun width hmem => hwidths width (List.mem_append_left _ hmem)
    rw [← List.cons_append, pager_concat]
    cases e with
    | didLayoutSubviews width => exact hwidths width (by simp)
    | timer => cases coord.autoScrollTimer.isSome <;> exact hbefore
    | scrolled _ => exact hbefore
    | willBeginDragging => exact hbefore
    | didEndDecelerating => exact hbefore
    | didEndScrollingAnimation => exact hbefore
    | downloaded _ _ => exact hbefore
    | dispatched _ => exact hbefore
    | turn => exact hbefore
    | cached _ _ => exact hbefore

variable [DecidableEq URL]

/-- Every scroll of a run that ends keeps the picture in sight. -/
def KeepsPictures (coord : KSICInfiniteCoordinator URL) (placeholderImage : Image)
    (cache : URL → Option Image) (events : List (CarouselEvent URL Image)) : Prop :=
  ∀ earlier e, earlier ++ [e] <+: events → e.EndsScroll → ∃ before after url,
    run coord placeholderImage cache earlier = .ok before ∧
      run coord placeholderImage cache (earlier ++ [e]) = .ok after ∧
      before.inSight = some url ∧ after.inSight = some url

/-- A scroll that the pager keeps in sight keeps its picture in sight. -/
theorem kept_of_keepsSight (hpage : coord.currentPage < coord.model.length)
    (placeholderImage : Image) (cache : URL → Option Image)
    {earlier : List (CarouselEvent URL Image)} {e : CarouselEvent URL Image} (hends : e.EndsScroll)
    (hkeeps : (pager coord earlier).KeepsSight) :
    ∃ before after url, run coord placeholderImage cache earlier = .ok before ∧
      run coord placeholderImage cache (earlier ++ [e]) = .ok after ∧
      before.inSight = some url ∧ after.inSight = some url := by
  obtain ⟨before, hbefore, hfollows⟩ := follows_run hpage placeholderImage cache earlier
  obtain ⟨after, hafter, hended⟩ := follows_run hpage placeholderImage cache (earlier ++ [e])
  rw [pager_concat, hends.move] at hended
  obtain ⟨url, hsight⟩ := hfollows.kept hended hkeeps
  exact ⟨before, after, url, hbefore, hafter, hsight⟩

/-- **Pictures.** In a run that starts with a layout, every scroll keeps the picture in sight
exactly if it stops in the middle and started there, or at the first or last place and did
not start beyond that. This is for at least three pictures, all different. -/
theorem keepsPictures_iff (hpage : coord.currentPage < coord.model.length)
    (hcount : 3 ≤ coord.model.length) (hnodup : coord.model.Nodup) (placeholderImage : Image)
    (cache : URL → Option Image) {width : ℚ} (hwidth : 0 < width)
    {events : List (CarouselEvent URL Image)}
    (hwidths : ∀ width, .didLayoutSubviews width ∈ events → 0 < width) :
    KeepsPictures coord placeholderImage cache (.didLayoutSubviews width :: events) ↔
      ∀ earlier e, earlier ++ [e] <+: .didLayoutSubviews width :: events → e.EndsScroll →
        let s := pager coord earlier
        s.offset = 0 ∧ 0 ≤ s.startedAt ∨ s.offset = s.width ∧ s.startedAt = s.width ∨
          s.offset = s.width + s.width ∧ s.startedAt ≤ s.width + s.width := by
  have hlaidOut : ∀ earlier e, earlier ++ [e] <+: .didLayoutSubviews width :: events →
      e.EndsScroll → 0 < (pager coord earlier).width := by
    intro earlier e hpre hends
    cases earlier with
    | nil =>
      obtain rfl := (List.cons_prefix_cons.mp hpre).1
      exact False.elim hends
    | cons first earlier =>
      obtain ⟨rfl, htail⟩ := List.cons_prefix_cons.mp hpre
      exact width_pos_of_laidOut coord hwidth fun width hmem =>
        hwidths width (htail.subset (List.mem_append_left _ hmem))
  constructor
  · intro hkeeps earlier e hpre hends
    obtain ⟨before, after, url, hbefore, hafter, hsight⟩ := hkeeps earlier e hpre hends
    obtain ⟨c, hc, hfollows⟩ := follows_run hpage placeholderImage cache earlier
    obtain ⟨d, hd, hended⟩ := follows_run hpage placeholderImage cache (earlier ++ [e])
    obtain rfl := Except.ok.inj (hbefore.symm.trans hc)
    obtain rfl := Except.ok.inj (hafter.symm.trans hd)
    have hpos := hlaidOut earlier e hpre hends
    rw [pager_concat, hends.move] at hended
    exact (Pager.State.keepsSight_iff hpos).mp
      (hfollows.keepsSight hended hpos hcount hnodup ⟨url, hsight⟩)
  · intro hstops earlier e hpre hends
    exact kept_of_keepsSight hpage placeholderImage cache hends
      ((Pager.State.keepsSight_iff (hlaidOut earlier e hpre hends)).mpr
        (hstops earlier e hpre hends))

/-- A coordinator of three pictures that scrolls by itself. -/
def threePictures : KSICInfiniteCoordinator ℕ where
  model := [10, 11, 12]
  currentPage := 0
  shouldShowActivityIndicator := true
  activityIndicatorStyle := .white
  autoScrollTimer := some (.left, 7)
  delegate := true

/-- A scroll of the timer is caught on its way and falls back. -/
def caughtScroll : List (CarouselEvent ℕ ℕ) :=
  [.timer, .scrolled 150, .willBeginDragging, .scrolled 100, .didEndDecelerating]

/-- The condition at a scroll that is caught. -/
theorem caught_scroll_iff :
    KeepsPictures threePictures 0 (fun _ => none) (.didLayoutSubviews 100 :: caughtScroll) ↔
      ∀ earlier e, earlier ++ [e] <+: .didLayoutSubviews 100 :: caughtScroll → e.EndsScroll →
        let s := pager threePictures earlier
        s.offset = 0 ∧ 0 ≤ s.startedAt ∨ s.offset = s.width ∧ s.startedAt = s.width ∨
          s.offset = s.width + s.width ∧ s.startedAt ≤ s.width + s.width :=
  keepsPictures_iff (by decide) (by decide) (by decide) 0 (fun _ => none) (by norm_num)
    (by simp [caughtScroll])

/-- **Whole scrolls.** After its first layout, a carousel that only makes whole scrolls keeps
every picture in sight, ends at the page that its scrolls add up to, and shows its picture. -/
theorem whole_scrolls_keep_pictures (hpage : coord.currentPage < coord.model.length)
    (placeholderImage : Image) (cache : URL → Option Image)
    {events : List (CarouselEvent URL Image)} {width : ℚ} (hwidth : 0 < width)
    {gestures : List (Pager.Gesture ℚ)} (hproper : ∀ gesture ∈ gestures, gesture.Proper)
    (hmoves : events.filterMap (CarouselEvent.move coord.autoScrollTimer.isSome) =
      .layout width :: Pager.movesOf width gestures) :
    KeepsPictures coord placeholderImage cache events ∧
      ∃ c, run coord placeholderImage cache events = .ok c ∧
        (c.coord.currentPage : ℤ) =
          (coord.currentPage + Pager.turnsOf gestures) % coord.model.length ∧
        c.inSight = coord.model[c.coord.currentPage]? := by
  let first : Pager.State ℚ := Pager.created coord.currentPage
  let laid := Pager.step first (.layout width)
  have hrest : laid.Resting := Pager.layout_resting _ hwidth
  obtain ⟨hresting, hturned, hsteady⟩ := Pager.gestures_from_rest hrest hproper
  have hlaid : laid.width = width := rfl
  rw [hlaid] at hresting hturned hsteady
  have hpager : pager coord events = (Pager.movesOf width gestures).foldl Pager.step laid := by
    rw [pager, hmoves, List.foldl_cons]
  have hkept : Pager.Steady first
      (events.filterMap (CarouselEvent.move coord.autoScrollTimer.isSome)) := by
    rw [hmoves]
    exact Runs.guarded_cons.mpr ⟨by simp, hsteady⟩
  constructor
  · intro earlier e hpre hends
    have hstop := hpre.filterMap (CarouselEvent.move coord.autoScrollTimer.isSome)
    rw [List.filterMap_append, List.filterMap_cons_some (hends.move _), List.filterMap_nil] at hstop
    exact kept_of_keepsSight hpage placeholderImage cache hends (hkept _ _ hstop rfl)
  · obtain ⟨c, hrun, hc⟩ := follows_run hpage placeholderImage cache events
    rw [hpager] at hc
    refine ⟨c, hrun, by rw [hc.page, hturned]; rfl, ?_⟩
    have hcenter : _ = Place.center.position _ := hresting.offset_eq
    rw [hc.inSight_eq hresting.width_pos hcenter, Place.turn,
      Int.add_zero, KSICInfiniteCoordinator.pictureAt, ← hc.page, Int.toNat_natCast]

/-- The timer scrolls to the next picture while a download fails. -/
def wholeScroll : List (CarouselEvent ℕ ℕ) :=
  [.didLayoutSubviews 100, .timer, .scrolled 150, .downloaded 0 .failure, .scrolled 200,
    .didEndScrollingAnimation]

/-- The scroll of the timer keeps its picture in sight. -/
theorem wholeScroll_keeps_picture :
    KeepsPictures threePictures 0 (fun _ => none) wholeScroll ∧
      ∃ c, run threePictures 0 (fun _ => none) wholeScroll = .ok c ∧
        (c.coord.currentPage : ℤ) = (0 + Pager.turnsOf [.scroll [(150 : ℚ)] .last]) % 3 ∧
        c.inSight = threePictures.model[c.coord.currentPage]? :=
  whole_scrolls_keep_pictures (by decide) 0 (fun _ => none) (by norm_num : (0 : ℚ) < 100)
    (fun gesture hmem => by
      obtain rfl := List.mem_singleton.mp hmem
      trivial)
    (by decide +kernel)

end Carousel

end JazzOnTheMove.IOS
