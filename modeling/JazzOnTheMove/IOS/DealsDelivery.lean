import JazzOnTheMove.IOS.DealsScreens
import JazzOnTheMove.Library.Runs
import Mathlib.Data.List.Chain

/-!
# Snapshots processed one at a time

When the main queue drains between two snapshots, a snapshot is processed in
four rounds: its listener block, the document blocks, the callbacks, and the
blocks that show the list. The first three rounds never touch the screen's list
and the last one assigns the full list, if any document was complete.
-/

namespace JazzOnTheMove.IOS

/-! ## The rounds -/

/-- The listener block clears the view model's list and dispatches the document blocks. -/
theorem runBlocks_listener (s : DealsScreen) (docs : List Document) :
    EventLoop.runBlocks (exec HomeVM.getDeals) s [.listener (some docs) none] =
      ({ s with vmItemList := [] }, docs.map fun document => .document document.data) := by
  simp [EventLoop.runBlocks, exec, HomeVM.getDeals, replaceItems]

/-- Document blocks in a row append the complete items and dispatch one callback for each. -/
theorem runBlocks_documents (s : DealsScreen) (docs : List Document) :
    EventLoop.runBlocks (exec HomeVM.getDeals) s
        (docs.map fun document => .document document.data) =
      ({ s with vmItemList := s.vmItemList ++ completeItems docs },
        List.replicate (completeItems docs).length .callback) := by
  induction docs generalizing s with
  | nil => simp [EventLoop.runBlocks]
  | cons doc docs ih =>
    rw [List.map_cons, EventLoop.runBlocks, ih, completeItems_cons]
    cases hdoc : Item.ofData doc.data with
    | none => simp [exec, appendItem, hdoc]
    | some newList => simp [exec, appendItem, hdoc, List.replicate_succ]

/-- Callbacks in a row all report the list as it is and dispatch one show block each. -/
theorem runBlocks_callbacks {s : DealsScreen} (hs : s.dataCB = true) (k : ℕ) :
    EventLoop.runBlocks (exec HomeVM.getDeals) s (List.replicate k .callback) =
      ({ s with calls := s.calls ++ List.replicate k ⟨true, s.vmItemList, "Suceessful"⟩ },
        List.replicate k (.reload s.vmItemList)) := by
  induction k generalizing s with
  | zero => simp [EventLoop.runBlocks]
  | succ k ih =>
    rw [List.replicate_succ, EventLoop.runBlocks]
    simp only [exec, DealsScreen.callDataCB_of_set hs]
    rw [ih (by exact hs)]
    simp [List.replicate_succ]

/-- Show blocks in a row leave the last list on the screen. -/
theorem runBlocks_reloads (s : DealsScreen) (items : List Item) (k : ℕ) :
    EventLoop.runBlocks (exec HomeVM.getDeals) s (List.replicate k (.reload items)) =
      ({ s with
          itemList := if k = 0 then s.itemList else items
          reloads := s.reloads + k }, []) := by
  induction k generalizing s with
  | zero => simp [EventLoop.runBlocks]
  | succ k ih =>
    rw [List.replicate_succ, EventLoop.runBlocks]
    simp only [exec, ih]
    simp [Nat.add_assoc, Nat.add_comm 1]

/-- Only show blocks write the list that the collection view reads. -/
theorem exec_itemList (s : DealsScreen) {b : Block} (hb : ∀ items, b ≠ .reload items) :
    (exec HomeVM.getDeals s b).1.itemList = s.itemList := by
  cases b with
  | listener querySnapshot err =>
    cases err with
    | some err => exact DealsScreen.callDataCB_itemList _ _ _ _
    | none => rfl
  | document data =>
    simp only [exec, appendItem]
    split <;> rfl
  | callback => exact DealsScreen.callDataCB_itemList _ _ _ _
  | reload items => exact absurd rfl (hb items)

/-- So blocks that show nothing leave that list alone. -/
theorem runBlocks_itemList {s : DealsScreen} {blocks : List Block}
    (h : ∀ b ∈ blocks, ∀ items, b ≠ .reload items) :
    (EventLoop.runBlocks (exec HomeVM.getDeals) s blocks).1.itemList = s.itemList := by
  induction blocks generalizing s with
  | nil => rfl
  | cons b blocks ih =>
    rw [EventLoop.runBlocks, ih fun c hc => h c (List.mem_cons_of_mem b hc)]
    exact exec_itemList s (h b List.mem_cons_self)

/-- A round of such blocks may be skipped when watching the screen's list. -/
theorem switches_of_quiet_round {s : DealsScreen} {blocks : List Block} {old items : List Item}
    (hold : s.itemList = old) (hquiet : ∀ b ∈ blocks, ∀ items, b ≠ .reload items)
    (hnext : EventLoop.Switches (exec HomeVM.getDeals) DealsScreen.itemList old items
      ⟨(EventLoop.runBlocks (exec HomeVM.getDeals) s blocks).1,
        (EventLoop.runBlocks (exec HomeVM.getDeals) s blocks).2⟩) :
    EventLoop.Switches (exec HomeVM.getDeals) DealsScreen.itemList old items ⟨s, blocks⟩ := by
  refine EventLoop.switches_of_round (fun j _ => ?_) hnext
  rw [runBlocks_itemList fun b hb => hquiet b (List.mem_of_mem_take hb), hold]

/-- A list is on the screen, and only blocks that show it are left. -/
def ShowsOnly (items : List Item) (l : ScreenLoop) : Prop :=
  l.state.itemList = items ∧ ∀ b ∈ l.queue, b = .reload items

/-- Once one show block has run, the others only repeat its assignment. -/
theorem ShowsOnly.turn {items : List Item} {l : ScreenLoop} (hl : ShowsOnly items l) :
    ShowsOnly items (EventLoop.turn (exec HomeVM.getDeals) l) := by
  obtain ⟨t, _ | ⟨b, rest⟩⟩ := l
  · exact hl
  · obtain rfl := hl.2 b List.mem_cons_self
    refine ⟨rfl, fun c hc => hl.2 c (List.mem_cons_of_mem _ ?_)⟩
    simpa [exec] using hc

/-- A nonempty round of show blocks switches the screen's list to theirs. -/
theorem switches_reloads {s : DealsScreen} {old items : List Item} (hold : s.itemList = old)
    {k : ℕ} (hk : k ≠ 0) :
    EventLoop.Switches (exec HomeVM.getDeals) DealsScreen.itemList old items
      ⟨s, List.replicate k (.reload items)⟩ := by
  obtain ⟨k, rfl⟩ := Nat.exists_eq_succ_of_ne_zero hk
  refine EventLoop.switches_of_turn hold fun j => ?_
  have hfirst : ShowsOnly items (EventLoop.turn (exec HomeVM.getDeals)
      ⟨s, List.replicate (k + 1) (.reload items)⟩) := by
    refine ⟨rfl, fun b hb => ?_⟩
    simp only [List.replicate_succ, EventLoop.turn_cons, exec, List.append_nil] at hb
    exact List.eq_of_mem_replicate hb
  exact (Function.Iterate.rec (ShowsOnly items) hfirst (fun _ => ShowsOnly.turn) j).1

/-! ## A whole snapshot -/

/-- A screen once a snapshot has been processed. -/
def DealsScreen.afterSnapshot (s : DealsScreen) (docs : List Document) : DealsScreen :=
  let items := completeItems docs
  { s with
    vmItemList := items
    calls := s.calls ++ List.replicate items.length ⟨true, items, "Suceessful"⟩
    itemList := if items = [] then s.itemList else items
    reloads := s.reloads + items.length }

/-- The main queue drains after a snapshot, with the effect of `afterSnapshot`. -/
theorem settles_afterSnapshot (sec : MenuSection) {s : DealsScreen} (hs : s.dataCB = true)
    (docs : List Document) :
    EventLoop.Settles (exec (listenerOf sec)) ⟨s, [.listener (some docs) none]⟩
      (s.afterSnapshot docs) := by
  rw [exec_listenerOf]
  apply EventLoop.settles_of_round
  rw [runBlocks_listener]
  apply EventLoop.settles_of_round
  rw [runBlocks_documents]
  apply EventLoop.settles_of_round
  rw [runBlocks_callbacks (by exact hs)]
  apply EventLoop.settles_of_round
  rw [runBlocks_reloads]
  simp only [List.nil_append, List.length_eq_zero_iff]
  exact EventLoop.settles_nil _

/-- The screen's list switches straight to the full list of the snapshot. -/
theorem switches_itemList (sec : MenuSection) {s : DealsScreen} (hs : s.dataCB = true)
    {docs : List Document} (hdocs : completeItems docs ≠ []) :
    EventLoop.Switches (exec (listenerOf sec)) DealsScreen.itemList s.itemList
      (completeItems docs) ⟨s, [.listener (some docs) none]⟩ := by
  rw [exec_listenerOf]
  apply switches_of_quiet_round rfl
  · simp
  rw [runBlocks_listener]
  apply switches_of_quiet_round rfl
  · simp
  rw [runBlocks_documents]
  apply switches_of_quiet_round rfl
  · simp
  rw [runBlocks_callbacks (by exact hs), List.nil_append]
  exact switches_reloads rfl (by simpa using hdocs)

/-- **No partial list is ever shown.** A snapshot processed alone calls the handler once
for each complete document, always with the full list, and the screen's list switches
from its old value straight to the full list. -/
theorem snapshot_shown_whole (sec : MenuSection) (s : DealsScreen) (docs : List Document) :
    ∃ drained : DealsScreen,
      EventLoop.Settles (exec (listenerOf sec))
        ⟨(loadDeals sec s).1, [.listener (some docs) none]⟩ drained ∧
      drained.calls = s.calls ++
        List.replicate (docs.countP fun doc => doc.Complete)
          ⟨true, completeItems docs, "Suceessful"⟩ ∧
      (0 < (docs.countP fun doc => doc.Complete) →
        EventLoop.Switches (exec (listenerOf sec)) DealsScreen.itemList
          s.itemList (completeItems docs)
          ⟨(loadDeals sec s).1, [.listener (some docs) none]⟩) := by
  rw [loadDeals_fst, ← length_completeItems]
  refine ⟨_, settles_afterSnapshot sec rfl docs, rfl, fun hsome => ?_⟩
  exact switches_itemList sec rfl (List.ne_nil_of_length_pos hsome)

/-! ## Snapshot after snapshot -/

/-- A bound on the turns a block and all that follows from it can take. -/
def Block.weight : Block → ℕ
  | .listener querySnapshot _ => 2 + 3 * (querySnapshot.getD []).length
  | .document _ => 3
  | .callback => 2
  | .reload _ => 1

/-- Calling `dataCB` dispatches less than a callback block weighs. -/
theorem weigh_callDataCB (s : DealsScreen) (status : Bool) (items : List Item)
    (message : String) :
    EventLoop.weigh Block.weight (s.callDataCB status items message).2 < 2 := by
  rcases s.callDataCB_blocks status items message with h | h
  · rw [h, EventLoop.weigh_nil]
    omega
  · rw [h, EventLoop.weigh_cons, EventLoop.weigh_nil, Block.weight]
    omega

/-- Every block of a deals screen weighs more than what it dispatches, so the queue drains. -/
theorem exec_decreasing (sec : MenuSection) :
    EventLoop.Decreasing (exec (listenerOf sec)) Block.weight := by
  rw [exec_listenerOf]
  intro s b
  cases b with
  | listener querySnapshot err =>
    cases err with
    | some err =>
      have hcall := weigh_callDataCB { s with vmItemList := [] } false []
        ("Error getting documents: " ++ err)
      simp only [exec, HomeVM.getDeals, replaceItems, Block.weight]
      omega
    | none =>
      simp [exec, HomeVM.getDeals, replaceItems, Block.weight, EventLoop.weigh,
        Function.comp_def]
      omega
  | document data =>
    simp only [exec, appendItem]
    cases Item.ofData data <;> simp [Block.weight]
  | callback => exact weigh_callDataCB s true s.vmItemList "Suceessful"
  | reload items => simp [exec, Block.weight]

/-- Deliver a snapshot to a screen and let the main queue drain. -/
def processSnapshot (sec : MenuSection) (s : DealsScreen) (docs : List Document) : DealsScreen :=
  (EventLoop.settle (exec (listenerOf sec)) Block.weight
    ⟨s, [.listener (some docs) none]⟩).state

/-- Processing a snapshot has the effect of its four rounds. -/
theorem processSnapshot_eq (sec : MenuSection) {s : DealsScreen} (hs : s.dataCB = true)
    (docs : List Document) : processSnapshot sec s docs = s.afterSnapshot docs := by
  rw [processSnapshot, (exec_decreasing sec).settle_eq (settles_afterSnapshot sec hs docs)]

/-- From any screen, each snapshot of a sequence is shown in full if and only if one
without complete documents only comes when nothing was shown before it. -/
theorem shown_snapshots_iff (sec : MenuSection) {s : DealsScreen} (hs : s.dataCB = true)
    (snapshots : List (List Document)) :
    Runs.AfterEach (processSnapshot sec) (fun t docs => t.itemList = completeItems docs)
        s snapshots ↔
      (s.itemList :: snapshots.map completeItems).IsChain
        fun items next => next = [] → items = [] := by
  induction snapshots generalizing s with
  | nil => simp
  | cons first snapshots ih =>
    have hshown : (s.afterSnapshot first).itemList = completeItems first ↔
        (completeItems first = [] → s.itemList = []) := by
      simp only [DealsScreen.afterSnapshot]
      by_cases hnone : completeItems first = []
      · simp [hnone]
      · simp [hnone]
    have hrest := ih (s := s.afterSnapshot first) hs
    rw [Runs.afterEach_cons, processSnapshot_eq sec hs, hshown, hrest, List.map_cons,
      List.isChain_cons_cons]
    constructor
    · rintro ⟨hfirst, hchain⟩
      rw [hshown.mpr hfirst] at hchain
      exact ⟨hfirst, hchain⟩
    · rintro ⟨hfirst, hchain⟩
      rw [hshown.mpr hfirst]
      exact ⟨hfirst, hchain⟩

/-- **The screen follows the database** through a sequence of snapshots, each processed
before the next, if and only if no snapshot without complete documents directly follows
one that has some. -/
theorem screen_follows_snapshots_iff (sec : MenuSection) (snapshots : List (List Document)) :
    Runs.AfterEach (processSnapshot sec) (fun t docs => t.itemList = completeItems docs)
        (loadDeals sec DealsScreen.fresh).1 snapshots ↔
      snapshots.IsChain fun docs next =>
        (∃ doc ∈ docs, doc.Complete) → ∃ doc ∈ next, doc.Complete := by
  rw [loadDeals_fst, shown_snapshots_iff sec rfl, List.isChain_cons, List.isChain_map]
  simp only [← completeItems_ne_nil_iff, not_imp_not, ne_eq]
  constructor
  · exact fun h => h.2
  · exact fun h => ⟨fun _ _ _ => rfl, h⟩

/-- Once its last deal is deleted, a screen keeps showing it. -/
theorem screen_keeps_deleted_deal :
    ¬ Runs.AfterEach (processSnapshot .events)
      (fun t docs => t.itemList = completeItems docs)
      (loadDeals .events DealsScreen.fresh).1 [[.deal "concert" "events" 1], []] := by
  intro h
  have hdeleted := h [[.deal "concert" "events" 1]] [] (List.prefix_refl _)
  revert hdeleted
  decide

end JazzOnTheMove.IOS
