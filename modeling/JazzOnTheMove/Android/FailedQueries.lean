import JazzOnTheMove.Android.DealsFragments

/-!
# Failed deals queries

A task calls both kinds of listeners when it fails, in the order in which they were
added. The complete listener comes first and asks the failed task for its result, so
the failure listener never has its turn, whether or not the fragment was detached.
-/

namespace JazzOnTheMove.Android

/-- The listeners that `loadDeals` adds to its task. -/
inductive TaskListener where
  | complete
  | failure
  deriving DecidableEq, Repr

/-- A fragment whose query has failed. -/
structure FailedQuery where
  load : DealsLoad
  fragment : DealsFragment
  /-- The listeners that wait on the main looper. -/
  waiting : List TaskListener
  /-- The exception that has ended the app. -/
  thrown : Option Thrown

namespace FailedQuery

/-- The query of a fragment fails. -/
def failed (load : DealsLoad) (fragment : DealsFragment) : FailedQuery where
  load := load
  fragment := fragment
  waiting := [.complete, .failure]
  thrown := none

/-- The call of a listener. -/
def call (load : DealsLoad) : TaskListener → DealsFragment → DealsFragment × Option Thrown
  | .complete => load.onComplete .failure
  | .failure => load.onFailure

/-- What happens after the failure. -/
inductive Event where
  /-- The main looper calls the next listener. -/
  | listener
  /-- The fragment is detached from its activity. -/
  | detach
  deriving DecidableEq, Repr

/-- One event. An exception ends the app. -/
def step (q : FailedQuery) : Event → FailedQuery
  | .listener =>
      match q.thrown, q.waiting with
      | none, next :: rest =>
          let (fragment, thrown) := call q.load next q.fragment
          { q with fragment := fragment, waiting := rest, thrown := thrown }
      | _, _ => q
  | .detach =>
      match q.thrown with
      | none => { q with fragment := { q.fragment with attached := false } }
      | some _ => q

/-- A finite run. -/
def run (q : FailedQuery) (events : List Event) : FailedQuery :=
  events.foldl step q

/-- No listener has thrown, the list and the adapter are those of the fragment before, and an
attached fragment has shown one toast. -/
structure Intact (q : FailedQuery) (before : DealsFragment) : Prop where
  returned : q.thrown = none
  deals : q.fragment.deals = before.deals
  itemsAdapter : q.fragment.itemsAdapter = before.itemsAdapter
  toasts : q.fragment.attached = true → q.fragment.toasts = before.toasts ++ ["Failed"]

variable {q : FailedQuery} {e : Event} {events : List Event}

/-- The listener to be called next asks the failed task for its result. -/
structure Waits (q : FailedQuery) : Prop where
  next : ∃ rest, q.waiting = .complete :: rest
  returned : q.thrown = none
  throws : ∀ fragment, q.load.onComplete .failure fragment = (fragment, some .failedTask)

/-- It does so in all fragments. -/
theorem waits_failed (sec : MenuSection) (fragment : DealsFragment) :
    (failed (loadDeals sec) fragment).Waits where
  next := ⟨[.failure], rfl⟩
  returned := rfl
  throws fragment := by cases sec <;> rfl

/-- Detaching the fragment does not change that. -/
theorem Waits.detach (h : q.Waits) : (q.step .detach).Waits := by
  have hstep : q.step .detach = { q with fragment := { q.fragment with attached := false } } := by
    simp [step, h.returned]
  rw [hstep]
  exact ⟨h.next, h.returned, h.throws⟩

/-- The first listener ends the app. -/
theorem Waits.listener (h : q.Waits) : (q.step .listener).thrown = some .failedTask := by
  obtain ⟨rest, hnext⟩ := h.next
  simp [step, h.returned, hnext, call, h.throws]

/-- Nothing happens after that. -/
theorem step_of_thrown {thrown : Thrown} (hthrown : q.thrown = some thrown) (e : Event) :
    q.step e = q := by
  cases e <;> simp [step, hthrown]

/-- A run after that changes nothing. -/
theorem run_of_thrown {thrown : Thrown} (hthrown : q.thrown = some thrown)
    (events : List Event) : q.run events = q := by
  induction events with
  | nil => rfl
  | cons e events ih =>
    change (q.step e).run events = q
    rw [step_of_thrown hthrown, ih]

/-- **Run.** Once a listener was called, the app has ended with its exception. -/
theorem Waits.run_thrown (h : q.Waits) (hcalled : .listener ∈ events) :
    (q.run events).thrown = some .failedTask := by
  induction events generalizing q with
  | nil => exact absurd hcalled List.not_mem_nil
  | cons e events ih =>
    change ((q.step e).run events).thrown = some .failedTask
    cases e with
    | listener =>
      have hthrown := h.listener
      rw [run_of_thrown hthrown, hthrown]
    | detach =>
      refine ih h.detach ((List.mem_cons.mp hcalled).resolve_left ?_)
      decide

/-- **Failed queries.** No fragment survives the failure of its query, whenever it was
detached: as soon as a listener was called, one has thrown. -/
theorem failed_not_intact (sec : MenuSection) (fragment : DealsFragment) (events : List Event)
    (hcalled : .listener ∈ events) :
    ¬ ((failed (loadDeals sec) fragment).run events).Intact fragment := by
  intro hintact
  have hthrown := (waits_failed sec fragment).run_thrown hcalled
  rw [hintact.returned] at hthrown
  cases hthrown

/-- A fragment that is detached before its listeners are called. -/
theorem detached_not_intact :
    ¬ ((failed (loadDeals .coffee) .created).run [.detach, .listener, .listener]).Intact
      .created :=
  failed_not_intact .coffee .created [.detach, .listener, .listener] (by decide)

/-- The home fragment stays attached. The exception ends the app and no toast is shown. -/
theorem home_not_intact :
    let q := (failed (loadDeals .home) .created).run [.listener, .listener]
    ¬ q.Intact .created ∧ q.thrown = some .failedTask ∧ q.fragment.toasts = [] := by
  refine ⟨fun hintact => ?_, rfl, rfl⟩
  cases hintact.returned

end FailedQuery

end JazzOnTheMove.Android
