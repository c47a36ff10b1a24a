import JazzOnTheMove.IOS.DealsScreens

/-!
# Interleavings of snapshots and document blocks

A listener block clears `itemList` at once but refills it through blocks at the
end of the main queue. If an earlier listener block is still waiting when a
snapshot is delivered, its documents are queued behind the later reset and stay
in the list. This file computes the drained list of every interleaving.
-/

namespace JazzOnTheMove.IOS

/-- The documents a listener block dispatches blocks for. -/
def deliveredDocuments (querySnapshot : Option (List Document)) : Option String → List Document
  | some _ => []
  | none => querySnapshot.getD []

/-- The documents of the listener blocks that wait in a queue. -/
def waitingDocuments : List Block → List Document
  | [] => []
  | .listener querySnapshot err :: rest =>
      deliveredDocuments querySnapshot err ++ waitingDocuments rest
  | _ :: rest => waitingDocuments rest

/-- The view model's list once a queue has drained without further deliveries.
Here `items` is the list so far, and the blocks of `later` wait behind the queue. -/
def forecast (items : List Item) (later : List Document) : List Block → List Item
  | [] => items ++ completeItems later
  | .listener querySnapshot err :: rest =>
      forecast [] (later ++ deliveredDocuments querySnapshot err) rest
  | .document data :: rest => forecast (items ++ (Item.ofData data).toList) later rest
  | .callback :: rest => forecast items later rest
  | .reload _ :: rest => forecast items later rest

/-- A queue of document blocks appends their complete items. -/
theorem forecast_documents (items : List Item) (later docs : List Document) :
    forecast items later (docs.map fun document => .document document.data) =
      items ++ completeItems (docs ++ later) := by
  induction docs generalizing items with
  | nil => rfl
  | cons doc docs ih => simp [forecast, ih]

/-- Document blocks at the end of the queue come before those waiting behind it. -/
theorem forecast_append_documents (items : List Item) (later docs : List Document)
    (queue : List Block) :
    forecast items later (queue ++ docs.map fun document => .document document.data) =
      forecast items (docs ++ later) queue := by
  induction queue generalizing items later with
  | nil => exact forecast_documents items later docs
  | cons b queue ih =>
    cases b <;> simp only [List.cons_append, forecast, ih, List.append_assoc]

/-- A block that shows a list does not touch the view model's one. -/
theorem forecast_append_reload (items : List Item) (later : List Document) (queue : List Block)
    (shown : List Item) :
    forecast items later (queue ++ [.reload shown]) = forecast items later queue := by
  induction queue generalizing items later with
  | nil => rfl
  | cons b queue ih => cases b <;> simp only [List.cons_append, forecast, ih]

/-- Neither does a callback block. -/
theorem forecast_append_callback (items : List Item) (later : List Document)
    (queue : List Block) :
    forecast items later (queue ++ [.callback]) = forecast items later queue := by
  induction queue generalizing items later with
  | nil => rfl
  | cons b queue ih => cases b <;> simp only [List.cons_append, forecast, ih]

/-- A snapshot delivered now is forecast behind the snapshots still waiting. -/
theorem forecast_append_listener (items : List Item) (later docs : List Document)
    (queue : List Block) :
    forecast items later (queue ++ [.listener (some docs) none]) =
      completeItems (later ++ waitingDocuments queue) ++ completeItems docs := by
  induction queue generalizing items later with
  | nil => simp [forecast, waitingDocuments, deliveredDocuments]
  | cons b queue ih =>
    cases b <;> simp only [List.cons_append, forecast, waitingDocuments, ih, List.append_assoc]

/-- The view model's list once the queue of a loop has drained. -/
def drainedItems (l : ScreenLoop) : List Item := forecast l.state.vmItemList [] l.queue

/-- What a call of `dataCB` leaves behind does not change the forecast. -/
theorem forecast_callDataCB (s : DealsScreen) (status : Bool) (items : List Item)
    (message : String) (queue : List Block) :
    forecast (s.callDataCB status items message).1.vmItemList []
        (queue ++ (s.callDataCB status items message).2) =
      forecast s.vmItemList [] queue := by
  rw [DealsScreen.callDataCB_vmItemList]
  rcases s.callDataCB_blocks status items message with h | h
  · rw [h, List.append_nil]
  · rw [h, forecast_append_reload]

/-- **Step.** No turn of the main queue changes what it will leave behind. -/
theorem drainedItems_turn (sec : MenuSection) (l : ScreenLoop) :
    drainedItems (turn sec l) = drainedItems l := by
  obtain ⟨s, _ | ⟨b, rest⟩⟩ := l
  · rfl
  · simp only [turn, exec_listenerOf, EventLoop.turn_cons, drainedItems]
    cases b with
    | listener querySnapshot err =>
      cases err with
      | some err => exact forecast_callDataCB _ _ _ _ _
      | none =>
        simp only [exec, HomeVM.getDeals, replaceItems, forecast, deliveredDocuments,
          forecast_append_documents, List.append_nil, List.nil_append]
    | document data =>
      simp only [exec, appendItem, forecast]
      cases Item.ofData data with
      | some newList => simp [forecast_append_callback]
      | none => simp
    | callback => exact forecast_callDataCB _ _ _ _ _
    | reload items => simp [exec, forecast]

/-- **Run.** However long the main queue works, the list it will leave stays the same. -/
theorem drainedItems_play_turns (sec : MenuSection) (l : ScreenLoop) (n : ℕ) :
    drainedItems (play sec l (List.replicate n .turn)) = drainedItems l := by
  induction n generalizing l with
  | zero => rfl
  | succ n ih =>
    rw [List.replicate_succ, play, List.foldl_cons]
    exact (ih _).trans (drainedItems_turn sec l)

/-- The drained list after a last delivery: the complete items of the snapshots that
were still waiting, followed by those of the snapshot delivered. -/
theorem drained_vmItemList (sec : MenuSection) (l : ScreenLoop) (docs : List Document) (n : ℕ)
    (hdrained : (play sec l (.deliver (some docs) none :: List.replicate n .turn)).queue = []) :
    (play sec l (.deliver (some docs) none :: List.replicate n .turn)).state.vmItemList =
      completeItems (waitingDocuments l.queue) ++ completeItems docs := by
  have hforecast := drainedItems_play_turns sec (l.post (.listener (some docs) none)) n
  have hpost : drainedItems (l.post (.listener (some docs) none)) =
      completeItems (waitingDocuments l.queue) ++ completeItems docs := by
    rw [drainedItems, EventLoop.Loop.post, forecast_append_listener, List.nil_append]
  rw [hpost] at hforecast
  rw [← hforecast, drainedItems]
  have hplay : play sec l (.deliver (some docs) none :: List.replicate n .turn) =
      play sec (l.post (.listener (some docs) none)) (List.replicate n .turn) := rfl
  rw [hplay] at hdrained ⊢
  rw [hdrained, forecast, completeItems_nil, List.append_nil]

/-- The waiting documents are all incomplete exactly if every waiting snapshot is. -/
theorem completeItems_waitingDocuments_eq_nil_iff (queue : List Block) :
    completeItems (waitingDocuments queue) = [] ↔
      ∀ earlier, .listener (some earlier) none ∈ queue → ∀ doc ∈ earlier, ¬ doc.Complete := by
  simp only [← completeItems_eq_nil_iff]
  induction queue with
  | nil => simp [waitingDocuments]
  | cons b queue ih =>
    cases b with
    | listener querySnapshot err =>
      rw [waitingDocuments, completeItems_append, List.append_eq_nil_iff, ih]
      constructor
      · rintro ⟨hfirst, hrest⟩ earlier hmem
        rcases List.mem_cons.mp hmem with heq | hmem
        · cases heq
          exact hfirst
        · exact hrest earlier hmem
      · intro h
        refine ⟨?_, fun earlier hmem => h earlier (List.mem_cons_of_mem _ hmem)⟩
        cases err with
        | some err => rfl
        | none =>
          cases querySnapshot with
          | none => rfl
          | some docs => exact h docs List.mem_cons_self
    | document data => simpa [waitingDocuments] using ih
    | callback => simpa [waitingDocuments] using ih
    | reload items => simpa [waitingDocuments] using ih

/-- **Live deals list.** After any interleaving that delivered `docs` last and drained
the main queue, the view model lists exactly the complete documents of `docs` if and
only if no snapshot with a complete document was still waiting at that delivery. -/
theorem drained_eq_last_iff (sec : MenuSection) (s : DealsScreen) (moves : List Move)
    (docs : List Document) (n : ℕ)
    (hdrained : (play sec (opened sec s)
      (moves ++ .deliver (some docs) none :: List.replicate n .turn)).queue = []) :
    (play sec (opened sec s)
        (moves ++ .deliver (some docs) none :: List.replicate n .turn)).state.vmItemList =
        completeItems docs ↔
      ∀ earlier, .listener (some earlier) none ∈ (play sec (opened sec s) moves).queue →
        ∀ doc ∈ earlier, ¬ doc.Complete := by
  have hsplit : play sec (opened sec s)
      (moves ++ .deliver (some docs) none :: List.replicate n .turn) =
        play sec (play sec (opened sec s) moves)
          (.deliver (some docs) none :: List.replicate n .turn) := List.foldl_append
  rw [hsplit] at hdrained ⊢
  rw [drained_vmItemList sec _ docs n hdrained, List.append_left_eq_self,
    completeItems_waitingDocuments_eq_nil_iff]

/-- A snapshot delivered while a cached one is half processed is listed alone. -/
theorem drained_eq_last_after_reset :
    (play .coffee (opened .coffee DealsScreen.fresh)
      ([.deliver (some [.deal "old" "coffee" 1]) none, .turn] ++
        .deliver (some [.deal "new" "coffee" 2]) none :: List.replicate 7 .turn)).state.vmItemList =
      completeItems [.deal "new" "coffee" 2] :=
  (drained_eq_last_iff .coffee DealsScreen.fresh
    [.deliver (some [.deal "old" "coffee" 1]) none, .turn] [.deal "new" "coffee" 2] 7 rfl).mpr
    (by
      intro earlier hmem
      have hqueue : (play .coffee (opened .coffee DealsScreen.fresh)
          [.deliver (some [.deal "old" "coffee" 1]) none, .turn]).queue =
            [.document (Document.deal "old" "coffee" 1).data] := rfl
      rw [hqueue] at hmem
      simp at hmem)

/-- Two snapshots delivered before the main queue runs are both listed in the end. -/
theorem drained_keeps_waiting_snapshot :
    let moves : List Move :=
      .deliver (some [.deal "old" "coffee" 1]) none ::
        .deliver (some [.deal "new" "coffee" 2]) none :: List.replicate 8 .turn
    let drained := play .coffee (opened .coffee DealsScreen.fresh) moves
    drained.queue = [] ∧
      drained.state.vmItemList =
        completeItems [.deal "old" "coffee" 1, .deal "new" "coffee" 2] ∧
      drained.state.vmItemList ≠ completeItems [.deal "new" "coffee" 2] := by
  refine ⟨rfl, rfl, ?_⟩
  decide

end JazzOnTheMove.IOS
