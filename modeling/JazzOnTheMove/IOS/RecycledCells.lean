import JazzOnTheMove.IOS.PosterCells
import JazzOnTheMove.Library.Fallible

/-!
# Which poster a recycled cell ends up with

The cells of a collection view follow the late writes of their poster requests, each of
which asks for the address of the item it was started for. So a cell shows the response that
arrived last among its requests, which is the poster of the item it was last bound to only
if that response did not overtake an earlier one.
-/

namespace JazzOnTheMove.IOS

open LateWrites (jobs finished unfinished Schedule Board lastStart lastFinish)
open Fallible (bind_eq_ok)

variable {Data Image : Type} {kit : Toolkit Data Image}
  {outcome : String → ℕ → PosterResult Data} {result : ℕ → PosterResult Data}
  {events : List CellEvent} {g : DealsGrid Image}

/-- The posters of the bindings come to `result`, by number. -/
def Resolves (outcome : String → ℕ → PosterResult Data) (events : List CellEvent)
    (result : ℕ → PosterResult Data) : Prop :=
  ∀ id r, posterResult outcome events id = some r → r = result id

/-- The posters of some bindings come to what they do among later ones. -/
theorem Resolves.before {later : List CellEvent}
    (h : Resolves outcome (events ++ later) result) : Resolves outcome events result :=
  fun id r hr => h id r (posterResult_append hr later)

/-- If every binding is for a listed item, each has a poster, which comes to its result. -/
theorem Resolves.exists_poster (h : Resolves outcome events result)
    (hlisted : ∀ e ∈ events, e.Listed) {id : ℕ}
    (hid : id < (jobs (events.map CellEvent.log)).length) :
    ∃ item url, boundItem events id = some item ∧ item.poster = some url ∧
      outcome url id = result id ∧ posterResult outcome events id = some (result id) := by
  obtain ⟨item, url, hitem, hurl⟩ := exists_boundItem hlisted hid
  have hfound : posterResult outcome events id = some (outcome url id) :=
    posterResult_eq hitem hurl
  have hresult := h id _ hfound
  exact ⟨item, url, hitem, hurl, hresult, hresult ▸ hfound⟩

/-- The image of a cell. -/
def DealsGrid.imageOf (g : DealsGrid Image) (cell : ℕ) : Option Image :=
  (g.cells cell).bind MenuViewCell.dealsImg

/-- The cell whose request is under way with a number. -/
def DealsGrid.requestCell (g : DealsGrid Image) (id : ℕ) : Option ℕ :=
  (g.requests.find? fun request => request.id = id).map PosterRequest.cell

/-- Answering a request removes it and no other. -/
theorem DealsGrid.requestCell_answered (g : DealsGrid Image) (id other : ℕ) :
    { g with requests := g.requests.filter fun request => request.id ≠ id }.requestCell other =
      if other = id then none else g.requestCell other := by
  simp only [DealsGrid.requestCell, List.find?_filter]
  by_cases hsame : other = id
  · subst hsame
    have hgone : (g.requests.find? fun request =>
        decide (decide (request.id ≠ other) = true ∧ decide (request.id = other) = true)) =
          none := by
      rw [List.find?_eq_none]
      intro request _
      simp
    rw [hgone, if_pos rfl]
    rfl
  · have hsearch : (fun request : PosterRequest =>
        decide (decide (request.id ≠ id) = true ∧ decide (request.id = other) = true)) =
          fun request => decide (request.id = other) := by
      funext request
      by_cases hrequest : request.id = other
      · simp [hrequest, hsame]
      · simp [hrequest]
    rw [hsearch, if_neg hsame]

/-- Setting the image of a cell that exists changes no other cell. -/
theorem DealsGrid.imageOf_setImage {cell : ℕ} (hcell : (g.cells cell).isSome)
    (image : Option Image) (other : ℕ) :
    (g.setImage cell image).imageOf other = if other = cell then image else g.imageOf other := by
  obtain ⟨view, hview⟩ := Option.isSome_iff_exists.mp hcell
  unfold DealsGrid.imageOf DealsGrid.setImage
  by_cases hsame : other = cell
  · subst hsame
    simp [hview]
  · simp [hsame]

/-- Binding a cell to a listed item creates its view and starts a request for the poster
of the item. -/
theorem cellForItemAt_of_listed (kit : Toolkit Data Image) {itemList : List Item} {row cell : ℕ}
    (hlisted : CellEvent.Listed (.bind itemList row cell)) (g : DealsGrid Image) :
    ∃ item view url, itemList[row]? = some item ∧ item.poster = some url ∧
      cellForItemAt kit itemList row cell g = .ok {
        cells := Function.update g.cells cell (some view)
        started := g.started + 1
        requests := g.requests ++ [⟨g.started, url, cell⟩] } := by
  obtain ⟨item, hitem, htype, hposter⟩ := hlisted
  obtain ⟨type, htype⟩ := Option.isSome_iff_exists.mp htype
  obtain ⟨poster, hposter⟩ := Option.isSome_iff_exists.mp hposter
  have hrow : subscript itemList row = .ok item := by
    rw [subscript, Option.mem_def.mp hitem]
  refine ⟨item, { dequeueReusableCell kit g cell with
    dealsName := item.name, dealsType := some (kit.uppercased type) }, poster, hitem, hposter, ?_⟩
  unfold cellForItemAt
  rw [hrow]
  simp only [bind, Except.bind, htype, hposter, unwrap]
  rfl

/-- A response with a body, or a failure, leaves its image in the cell of its request. -/
theorem stepCell_respond (kit : Toolkit Data Image) {id : ℕ} {request : PosterRequest}
    (hrequest : (g.requests.find? fun other => other.id = id) = some request)
    (hbody : outcome request.url id ≠ .success none) :
    stepCell kit outcome g (.respond id) =
      .ok ({ g with requests := g.requests.filter fun other => other.id ≠ id }.setImage
        request.cell ((outcome request.url id).shown kit)) := by
  rw [stepCell, hrequest]
  cases hresult : outcome request.url id with
  | failure => simp only [hresult]; rfl
  | success responseData =>
    cases responseData with
    | none => exact absurd hresult hbody
    | some data => simp only [hresult]; rfl

/-- A successful response without a body traps at `responseData!`. -/
theorem stepCell_respond_none (kit : Toolkit Data Image) {id : ℕ} {request : PosterRequest}
    (hrequest : (g.requests.find? fun other => other.id = id) = some request)
    (hbody : outcome request.url id = .success none) :
    stepCell kit outcome g (.respond id) = .error .foundNil := by
  rw [stepCell, hrequest]
  simp only [hbody]
  rfl

/-- The collection view after a run of events is the one their schedule describes, if the
request with a number comes to `result` of it. -/
structure Follows (kit : Toolkit Data Image) (outcome : String → ℕ → PosterResult Data)
    (result : ℕ → PosterResult Data) (events : List CellEvent) (g : DealsGrid Image) : Prop where
  started : g.started = (jobs (events.map CellEvent.log)).length
  /-- The requests under way are the unfinished jobs, each for its cell. -/
  requestCell (id : ℕ) : g.requestCell id =
    if id ∈ unfinished (events.map CellEvent.log) then
      (jobs (events.map CellEvent.log))[id]?
    else none
  /-- What a request asks for gives its result. -/
  requested {request : PosterRequest} (hrequest : request ∈ g.requests) :
    outcome request.url request.id = result request.id
  /-- Cells that were bound exist. -/
  bound {cell : ℕ} (hcell : cell ∈ jobs (events.map CellEvent.log)) : (g.cells cell).isSome
  board : Board (fun id => (result id).shown kit) (events.map CellEvent.log) g.imageOf

/-- Nothing is shown before the first event. -/
theorem Follows.empty : Follows kit outcome result [] (DealsGrid.empty : DealsGrid Image) where
  started := rfl
  requestCell _ := by simp [DealsGrid.requestCell, DealsGrid.empty, unfinished]
  requested hrequest := by simp [DealsGrid.empty] at hrequest
  bound hcell := by simp at hcell
  board := Board.nil _

/-- **Step.** A binding starts a job for its cell. -/
theorem Follows.bind {itemList : List Item} {row cell : ℕ}
    (hg : Follows kit outcome result events g) (view : MenuViewCell Image) {url : String}
    (hurl : outcome url g.started = result g.started) :
    Follows kit outcome result (events ++ [.bind itemList row cell]) {
      cells := Function.update g.cells cell (some view)
      started := g.started + 1
      requests := g.requests ++ [⟨g.started, url, cell⟩] } where
  started := by
    simp [CellEvent.log, hg.started]
  requestCell id := by
    have hold := hg.requestCell id
    simp only [List.map_append, List.map_singleton, CellEvent.log,
      hg.board.schedule.mem_unfinished_start, LateWrites.jobs_start]
    simp only [DealsGrid.requestCell] at hold ⊢
    rw [List.find?_append, Option.map_or, hold, hg.started]
    rcases eq_or_ne id (jobs (events.map CellEvent.log)).length with rfl | hne
    · -- the new request has the next number
      have hnew : (jobs (events.map CellEvent.log)).length ∉
          unfinished (events.map CellEvent.log) :=
        fun hmem => Nat.lt_irrefl _ (LateWrites.mem_unfinished.mp hmem).1
      simp [hnew]
    · by_cases hunfinished : id ∈ unfinished (events.map CellEvent.log)
      · have hlt := (LateWrites.mem_unfinished.mp hunfinished).1
        simp [hunfinished, List.getElem?_append_left hlt, hlt]
      · simp [hunfinished, hne, hne.symm]
  requested {request} hrequest := by
    rcases List.mem_append.mp hrequest with hold | hnew
    · exact hg.requested hold
    · rw [List.mem_singleton.mp hnew]
      exact hurl
  bound {other} hother := by
    simp only [List.map_append, List.map_singleton, CellEvent.log, LateWrites.jobs_start,
      List.mem_append, List.mem_singleton] at hother
    by_cases hsame : other = cell
    · subst hsame
      simp
    · simpa [hsame] using hg.bound (hother.resolve_right hsame)
  board := by
    rw [List.map_append, List.map_singleton, CellEvent.log]
    refine Board.start hg.board fun other hne => ?_
    simp [DealsGrid.imageOf, hne]

/-- **Step.** A response finishes the job of its request. -/
theorem Follows.respond {id cell : ℕ} (hg : Follows kit outcome result events g)
    (hcell : g.requestCell id = some cell) :
    Follows kit outcome result (events ++ [.respond id])
      ({ g with requests := g.requests.filter fun other => other.id ≠ id }.setImage cell
        ((result id).shown kit)) := by
  have hjob := hg.requestCell id
  rw [hcell] at hjob
  have hunfinished : id ∈ unfinished (events.map CellEvent.log) := by
    by_contra hnot
    rw [if_neg hnot] at hjob
    cases hjob
  rw [if_pos hunfinished] at hjob
  have hbound : (g.cells cell).isSome := hg.bound (List.mem_of_getElem? hjob.symm)
  refine ⟨?_, fun other => ?_, fun {request} hrequest => ?_, fun {other} hother => ?_, ?_⟩
  · simpa [CellEvent.log, DealsGrid.setImage] using hg.started
  · -- the answered request is no longer under way, the others are as before
    refine (g.requestCell_answered id other).trans ?_
    have hold := hg.requestCell other
    simp only [List.map_append, List.map_singleton, CellEvent.log,
      LateWrites.mem_unfinished_finish, LateWrites.jobs_finish]
    by_cases hsame : other = id
    · simp [hsame]
    · simp [hsame, hold]
  · exact hg.requested (List.mem_of_mem_filter hrequest)
  · simp only [List.map_append, List.map_singleton, CellEvent.log, LateWrites.jobs_finish] at hother
    by_cases hsame : other = cell
    · subst hsame
      simpa [DealsGrid.setImage] using hbound
    · simpa [DealsGrid.setImage, hsame] using hg.bound hother
  · rw [List.map_append, List.map_singleton, CellEvent.log]
    refine Board.finish hg.board hunfinished fun other => ?_
    rw [← hjob]
    refine (DealsGrid.imageOf_setImage hbound _ other).trans ?_
    by_cases hsame : other = cell
    · rw [if_pos hsame, if_pos (by rw [hsame])]
    · rw [if_neg hsame, if_neg fun h => hsame (Option.some.inj h).symm]

/-- An unfinished request is under way, for an address that gives its result. -/
theorem Follows.exists_request (hg : Follows kit outcome result events g) {id : ℕ}
    (hid : id ∈ unfinished (events.map CellEvent.log)) :
    ∃ request, (g.requests.find? fun other => other.id = id) = some request ∧
      g.requestCell id = some request.cell ∧ outcome request.url id = result id := by
  have hlt := (LateWrites.mem_unfinished.mp hid).1
  have hcell := hg.requestCell id
  rw [if_pos hid, List.getElem?_eq_getElem hlt] at hcell
  obtain ⟨request, hrequest, -⟩ := Option.map_eq_some_iff.mp hcell
  have hnumber : request.id = id := by simpa using List.find?_some hrequest
  refine ⟨request, hrequest, ?_, ?_⟩
  · rw [DealsGrid.requestCell, hrequest, Option.map_some]
  · rw [← hnumber]
    exact hg.requested (List.mem_of_find?_eq_some hrequest)

/-- One more event in a run. -/
theorem runCells_concat (events : List CellEvent) (e : CellEvent) :
    runCells kit outcome (events ++ [e]) =
      runCells kit outcome events >>= fun g => stepCell kit outcome g e := by
  simp [runCells, List.foldlM_append]

/-- **Run.** If every binding is for a listed item and only requests under way are
answered, a run without bodyless successes ends in a state its schedule describes. -/
theorem exists_follows (kit : Toolkit Data Image) (events : List CellEvent)
    (hlisted : ∀ e ∈ events, e.Listed) (hschedule : Schedule (events.map CellEvent.log))
    (hresult : Resolves outcome events result)
    (hbody : ∀ id ∈ finished (events.map CellEvent.log), result id ≠ .success none) :
    ∃ g : DealsGrid Image,
      runCells kit outcome events = .ok g ∧ Follows kit outcome result events g := by
  induction events using List.reverseRecOn with
  | nil => exact ⟨_, rfl, Follows.empty⟩
  | append_singleton events e ih =>
    rw [List.map_append, List.map_singleton] at hschedule hbody
    have hbefore : ∀ e ∈ events, e.Listed := fun e he => hlisted e (List.mem_append_left _ he)
    have hearlier := hresult.before
    cases e with
    | bind itemList row cell =>
      rw [CellEvent.log, LateWrites.finished_start] at hbody
      rw [CellEvent.log, LateWrites.schedule_start] at hschedule
      obtain ⟨g, hrun, hg⟩ := ih hbefore hschedule hearlier hbody
      obtain ⟨item, view, url, hitem, hposter, hbind⟩ :=
        cellForItemAt_of_listed kit (hlisted (.bind itemList row cell) (by simp)) g
      have hbound : boundItem (events ++ [.bind itemList row cell]) g.started = some item := by
        rw [hg.started, boundItem_bind, hitem]
      have hurl : outcome url g.started = result g.started :=
        hresult g.started _ (posterResult_eq hbound hposter)
      refine ⟨_, ?_, hg.bind view hurl⟩
      rw [runCells_concat, hrun]
      exact hbind
    | respond id =>
      rw [CellEvent.log, LateWrites.finished_finish] at hbody
      rw [CellEvent.log, LateWrites.schedule_finish] at hschedule
      obtain ⟨g, hrun, hg⟩ := ih hbefore hschedule.1 hearlier
        fun id hid => hbody id (List.mem_append_left _ hid)
      obtain ⟨request, hrequest, hcell, houtcome⟩ := hg.exists_request hschedule.2
      have hanswer : outcome request.url id ≠ .success none := by
        rw [houtcome]
        exact hbody id (by simp)
      refine ⟨_, ?_, hg.respond hcell⟩
      rw [runCells_concat, hrun, ← houtcome]
      exact stepCell_respond kit hrequest hanswer

/-- A run that returns has seen no bodyless success. -/
theorem body_of_runCells (events : List CellEvent) (hlisted : ∀ e ∈ events, e.Listed)
    (hschedule : Schedule (events.map CellEvent.log))
    (hresult : Resolves outcome events result)
    {g : DealsGrid Image} (hrun : runCells kit outcome events = .ok g) :
    ∀ id ∈ finished (events.map CellEvent.log), result id ≠ .success none := by
  induction events using List.reverseRecOn generalizing g with
  | nil => simp
  | append_singleton events e ih =>
    intro id hid
    rw [List.map_append, List.map_singleton] at hschedule hid
    have hbefore : ∀ e ∈ events, e.Listed := fun e he => hlisted e (List.mem_append_left _ he)
    have hearlier := hresult.before
    rw [runCells_concat] at hrun
    obtain ⟨before, hrest, hlast⟩ := bind_eq_ok.mp hrun
    cases e with
    | bind itemList row cell =>
      rw [CellEvent.log, LateWrites.finished_start] at hid
      rw [CellEvent.log, LateWrites.schedule_start] at hschedule
      exact ih hbefore hschedule hearlier hrest id hid
    | respond last =>
      rw [CellEvent.log, LateWrites.finished_finish, List.mem_append, List.mem_singleton] at hid
      rw [CellEvent.log, LateWrites.schedule_finish] at hschedule
      rcases hid with hid | rfl
      · exact ih hbefore hschedule.1 hearlier hrest id hid
      · -- a bodyless success would have trapped in the last event
        intro hnone
        obtain ⟨before', hrest', hg⟩ := exists_follows kit events hbefore hschedule.1 hearlier
          (ih hbefore hschedule.1 hearlier hrest)
        obtain rfl := Except.ok.inj (hrest.symm.trans hrest')
        obtain ⟨request, hrequest, -, houtcome⟩ := hg.exists_request hschedule.2
        rw [stepCell_respond_none kit hrequest (houtcome.trans hnone)] at hlast
        cases hlast

/-- The run returns, and every cell shows the poster of the item it was last bound to: what
the network has under the address of that poster when the binding asks for it. -/
def ShowsLastBound (kit : Toolkit Data Image) (outcome : String → ℕ → PosterResult Data)
    (events : List CellEvent) : Prop :=
  ∃ g, runCells kit outcome events = .ok g ∧
    ∀ cell bound, lastStart (events.map CellEvent.log) cell = some bound →
      ∃ item url, boundItem events bound = some item ∧ item.poster = some url ∧
        g.imageOf cell = (outcome url bound).shown kit

/-- Once all responses have arrived, all requests are answered. -/
theorem mem_finished_of_answered
    (hanswered : unfinished (events.map CellEvent.log) = []) {id : ℕ}
    (hid : id < (jobs (events.map CellEvent.log)).length) :
    id ∈ finished (events.map CellEvent.log) := by
  by_contra hnot
  have hmem := LateWrites.mem_unfinished.mpr ⟨hid, hnot⟩
  rw [hanswered] at hmem
  cases hmem

/-- Once all responses have arrived, a cell shows the one that arrived last. -/
theorem Follows.exists_lastFinish (hg : Follows kit outcome result events g)
    (hanswered : unfinished (events.map CellEvent.log) = []) {cell bound : ℕ}
    (hbound : lastStart (events.map CellEvent.log) cell = some bound) :
    ∃ last, lastFinish (events.map CellEvent.log) cell = some last ∧
      g.imageOf cell = (result last).shown kit := by
  have hjob := LateWrites.getElem?_of_lastStart hbound
  refine hg.board.value_eq_lastFinish (List.mem_of_getElem? hjob) fun id hid => ?_
  rw [hanswered] at hid
  cases hid

/-- **Recycled cells.** Once all responses have arrived, every cell shows the poster of
the item it was last bound to if and only if no poster was a success without a body and, for
each cell, the last response to arrive shows the same as the poster of its last binding. -/
theorem showsLastBound_iff (kit : Toolkit Data Image) (outcome : String → ℕ → PosterResult Data)
    (events : List CellEvent) (hlisted : ∀ e ∈ events, e.Listed)
    (hschedule : Schedule (events.map CellEvent.log))
    (hanswered : unfinished (events.map CellEvent.log) = []) :
    ShowsLastBound kit outcome events ↔
      (∀ id, posterResult outcome events id ≠ some (.success none)) ∧
        ∀ cell bound last, lastStart (events.map CellEvent.log) cell = some bound →
          lastFinish (events.map CellEvent.log) cell = some last →
            (posterResult outcome events last).map (PosterResult.shown kit) =
              (posterResult outcome events bound).map (PosterResult.shown kit) := by
  let result (id : ℕ) : PosterResult Data := (posterResult outcome events id).getD .failure
  have hresult : Resolves outcome events result := by
    intro id r hr
    simp only [result, hr, Option.getD_some]
  constructor
  · rintro ⟨g, hrun, hshown⟩
    have hbody := body_of_runCells events hlisted hschedule hresult hrun
    obtain ⟨g', hrun', hg⟩ := exists_follows kit events hlisted hschedule hresult hbody
    obtain rfl := Except.ok.inj (hrun.symm.trans hrun')
    refine ⟨fun id hnone => ?_, fun cell bound last hbound hfinish => ?_⟩
    · have hid := lt_of_posterResult hnone
      exact hbody id (mem_finished_of_answered hanswered hid) (hresult id _ hnone).symm
    · obtain ⟨last', hfinish', himage⟩ := hg.exists_lastFinish hanswered hbound
      obtain rfl := Option.some.inj (hfinish.symm.trans hfinish')
      obtain ⟨item, url, hitem, hurl, hposter⟩ := hshown cell bound hbound
      obtain ⟨_, _, -, -, -, hlast⟩ :=
        hresult.exists_poster hlisted (hschedule.lt_of_lastFinish hfinish)
      have hlastBound : posterResult outcome events bound = some (outcome url bound) :=
        posterResult_eq hitem hurl
      rw [hlast, hlastBound, Option.map_some, Option.map_some, ← himage, hposter]
  · rintro ⟨hbody, hsame⟩
    have hanswers : ∀ id ∈ finished (events.map CellEvent.log), result id ≠ .success none := by
      intro id hid hnone
      obtain ⟨_, _, -, -, -, hfound⟩ :=
        hresult.exists_poster hlisted (hschedule.lt_of_mem_finished hid)
      exact hbody id (hnone ▸ hfound)
    obtain ⟨g, hrun, hg⟩ := exists_follows kit events hlisted hschedule hresult hanswers
    refine ⟨g, hrun, fun cell bound hbound => ?_⟩
    obtain ⟨last, hfinish, himage⟩ := hg.exists_lastFinish hanswered hbound
    obtain ⟨item, url, hitem, hurl, houtcome, hlastBound⟩ :=
      hresult.exists_poster hlisted (LateWrites.lt_of_lastStart hbound)
    obtain ⟨_, _, -, -, -, hlast⟩ :=
      hresult.exists_poster hlisted (hschedule.lt_of_lastFinish hfinish)
    refine ⟨item, url, hitem, hurl, ?_⟩
    have hshown := hsame cell bound last hbound hfinish
    rw [hlast, hlastBound, Option.map_some, Option.map_some] at hshown
    rw [himage, Option.some.inj hshown, houtcome]

/-- Image data that is the image itself, in front of an empty prototype. -/
def sampleKit : Toolkit String String where
  image data := some data
  placeholder := "placeholder"
  uppercased := String.toUpper
  prototype := ⟨none, none, none⟩

/-- Two deals for one cell. -/
def twoDeals : List Item := completeItems [.deal "first" "coffee" 2, .deal "second" "coffee" 1]

/-- Both deals can be bound. -/
theorem listed_twoDeals {row : ℕ} (hrow : row < 2) :
    CellEvent.Listed (.bind twoDeals row 7) :=
  CellEvent.listed_of_complete hrow 7

/-- A network that has, under every address, a poster with the address on it. -/
def labelledPosters (url : String) (_ : ℕ) : PosterResult String := .success (some url)

/-- A cell that is recycled after its poster arrived shows the next deal's poster. -/
theorem showsLastBound_in_order :
    ShowsLastBound sampleKit labelledPosters
      [.bind twoDeals 0 7, .respond 0, .bind twoDeals 1 7, .respond 1] := by
  have hlisted : ∀ e ∈ [.bind twoDeals 0 7, .respond 0, .bind twoDeals 1 7, .respond 1],
      CellEvent.Listed e := by
    rintro e he
    simp only [List.mem_cons, List.not_mem_nil, or_false] at he
    rcases he with rfl | rfl | rfl | rfl
    · exact listed_twoDeals (by decide)
    · trivial
    · exact listed_twoDeals (by decide)
    · trivial
  have hschedule : Schedule [.start 7, .finish 0, .start 7, .finish 1] := by
    have hbound : Schedule ([] ++ [.start 7]) := LateWrites.schedule_start.mpr (by simp)
    have hshown : Schedule ([.start 7] ++ [.finish 0]) :=
      LateWrites.schedule_finish.mpr ⟨hbound, by decide⟩
    have hrecycled : Schedule ([.start 7, .finish 0] ++ [.start 7]) :=
      LateWrites.schedule_start.mpr hshown
    exact LateWrites.schedule_finish.mpr ⟨hrecycled, by decide⟩
  refine (showsLastBound_iff sampleKit labelledPosters _ hlisted hschedule (by decide)).mpr
    ⟨fun id hnone => ?_, fun cell bound last hbound hlast => ?_⟩
  · obtain ⟨url, -, hsuccess⟩ := Option.map_eq_some_iff.mp hnone
    cases hsuccess
  by_cases hcell : cell = 7
  · subst hcell
    cases hbound
    cases hlast
    rfl
  · have hmem := List.mem_of_getElem? (LateWrites.getElem?_of_lastStart hbound)
    simp [CellEvent.log, LateWrites.jobs, hcell] at hmem

/-- A poster that arrives after its cell was recycled replaces the next deal's poster. -/
theorem late_poster_replaces_next :
    let events : List CellEvent :=
      [.bind twoDeals 0 7, .bind twoDeals 1 7, .respond 1, .respond 0]
    (∀ e ∈ events, e.Listed) ∧ Schedule (events.map CellEvent.log) ∧
      unfinished (events.map CellEvent.log) = [] ∧
      lastStart (events.map CellEvent.log) 7 = some 1 ∧
      (boundItem events 1).bind Item.poster = some "second" ∧
      (runCells sampleKit labelledPosters events).toOption.bind (fun g => g.imageOf 7) =
        some "first" ∧
      ¬ ShowsLastBound sampleKit labelledPosters events := by
  refine ⟨?_, ?_, by decide, by decide, by decide, rfl, ?_⟩
  · rintro e he
    simp only [List.mem_cons, List.not_mem_nil, or_false] at he
    rcases he with rfl | rfl | rfl | rfl
    · exact listed_twoDeals (by decide)
    · exact listed_twoDeals (by decide)
    · trivial
    · trivial
  · have hbound : Schedule ([] ++ [.start 7]) := LateWrites.schedule_start.mpr (by simp)
    have hrecycled : Schedule ([.start 7] ++ [.start 7]) := LateWrites.schedule_start.mpr hbound
    have hsecond : Schedule ([.start 7, .start 7] ++ [.finish 1]) :=
      LateWrites.schedule_finish.mpr ⟨hrecycled, by decide⟩
    exact LateWrites.schedule_finish.mpr ⟨hsecond, by decide⟩
  rintro ⟨g, hrun, hshown⟩
  obtain ⟨item, url, hitem, hurl, himage⟩ := hshown 7 1 (by decide)
  have hposter : (boundItem [.bind twoDeals 0 7, .bind twoDeals 1 7, .respond 1, .respond 0]
      1).bind Item.poster = some url := by
    rw [hitem, Option.bind_some, hurl]
  cases hrun
  -- the image is the first poster, and the second deal's address is not its
  have hfirst : some "first" = some url := himage
  rw [← hfirst] at hposter
  revert hposter
  decide

end JazzOnTheMove.IOS
