import Mathlib.Data.List.Induction

/-!
# Runs of a step function

A run feeds a finite list of events to a step function. `Possible` says that every
event can happen after those before it, `LastSatisfies` and `AtLast` that the last
of some kind of event came where it should, `AfterEach` that a property holds after
every event, `Throughout` that it holds in the first state too, and `Guarded` that
every event finds a state that admits it. When a guard is exact for one step, it is
exact for runs.
-/

namespace Runs

/-- The places in a run with a last event are that event and the places before it. -/
theorem forall_prefix_concat {ε : Type*} {Q : List ε → ε → Prop} {e : ε} {events : List ε} :
    (∀ earlier d, earlier ++ [d] <+: events ++ [e] → Q earlier d) ↔
      (∀ earlier d, earlier ++ [d] <+: events → Q earlier d) ∧ Q events e := by
  constructor
  · exact fun h => ⟨fun earlier d hpre => h earlier d (hpre.trans (List.prefix_append _ _)),
      h events e (List.prefix_refl _)⟩
  · rintro ⟨hbefore, hlast⟩ earlier d hpre
    rcases List.prefix_concat_iff.mp hpre with heq | hpre
    · obtain ⟨rfl, hsame⟩ := List.append_inj' heq rfl
      rw [List.singleton_inj] at hsame
      rwa [hsame]
    · exact hbefore earlier d hpre

/-- Every event of a run can happen after the events before it. -/
def Possible {ε : Type*} (canHappen : List ε → ε → Prop) (events : List ε) : Prop :=
  ∀ earlier e, earlier ++ [e] <+: events → canHappen earlier e

@[simp] theorem possible_nil {ε : Type*} {canHappen : List ε → ε → Prop} :
    Possible canHappen [] := by
  simp [Possible]

/-- A run is possible if its last event can happen and the run before it is possible. -/
theorem possible_concat {ε : Type*} {canHappen : List ε → ε → Prop} {e : ε} {events : List ε} :
    Possible canHappen (events ++ [e]) ↔ Possible canHappen events ∧ canHappen events e :=
  forall_prefix_concat

/-- A run is possible if each of its events can happen after those before it. -/
theorem possible_iff_getElem {ε : Type*} {canHappen : List ε → ε → Prop} {events : List ε} :
    Possible canHappen events ↔
      ∀ k, (hk : k < events.length) → canHappen (events.take k) events[k] := by
  constructor
  · intro h k hk
    refine h (events.take k) events[k] ?_
    rw [List.take_append_getElem]
    exact List.take_prefix (k + 1) events
  · rintro h earlier e ⟨later, rfl⟩
    have hk : earlier.length < (earlier ++ [e] ++ later).length := by
      simp only [List.length_append, List.length_singleton]
      omega
    simpa using h earlier.length hk

instance {ε : Type*} {canHappen : List ε → ε → Prop} [∀ earlier e, Decidable (canHappen earlier e)]
    (events : List ε) : Decidable (Possible canHappen events) :=
  decidable_of_iff _ possible_iff_getElem.symm

section

variable {ε : Type*} (selects P : List ε → ε → Prop)

/-- The last event of a run that its history selects, if there is one, has the property. -/
def LastSatisfies (events : List ε) : Prop :=
  ∀ earlier e later, events = earlier ++ e :: later → selects earlier e →
    (∀ between d, between ++ [d] <+: later → ¬ selects (earlier ++ e :: between) d) → P earlier e

variable {selects P} {e : ε} {events : List ε}

/-- The last event of a run is the event at a place, or it comes after that place. -/
private theorem concat_eq_append_cons {d : ε} {earlier later : List ε}
    (h : events ++ [e] = earlier ++ d :: later) :
    (events = earlier ∧ e = d ∧ later = []) ∨
      ∃ before, events = earlier ++ d :: before ∧ later = before ++ [e] := by
  induction later using List.reverseRecOn with
  | nil =>
    obtain ⟨hbefore, hsame⟩ := List.append_inj' h rfl
    exact Or.inl ⟨hbefore, List.singleton_inj.mp hsame, rfl⟩
  | append_singleton later c _ =>
    have hlast : events ++ [e] = (earlier ++ d :: later) ++ [c] := by
      rw [h, List.append_assoc, List.cons_append]
    obtain ⟨hbefore, hsame⟩ := List.append_inj' hlast rfl
    exact Or.inr ⟨later, hbefore, by rw [List.singleton_inj.mp hsame]⟩

@[simp] theorem lastSatisfies_nil : LastSatisfies selects P [] := by
  intro earlier e later heq
  simp at heq

/-- A selected event at the end is the last one. -/
theorem lastSatisfies_concat_of_selects (he : selects events e) :
    LastSatisfies selects P (events ++ [e]) ↔ P events e := by
  constructor
  · exact fun h => h events e [] rfl he (by simp)
  · intro h earlier d later heq _ hlater
    rcases concat_eq_append_cons heq with ⟨rfl, rfl, rfl⟩ | ⟨before, rfl, rfl⟩
    · exact h
    · exact absurd he (hlater before e (List.prefix_refl _))

/-- Any other event at the end leaves the last one where it is. -/
theorem lastSatisfies_concat_of_not_selects (he : ¬ selects events e) :
    LastSatisfies selects P (events ++ [e]) ↔ LastSatisfies selects P events := by
  constructor
  · intro h earlier d later heq hd hlater
    refine h earlier d (later ++ [e]) ?_ hd (forall_prefix_concat.mpr ⟨hlater, ?_⟩)
    · rw [heq, List.append_assoc, List.cons_append]
    · rwa [← heq]
  · intro h earlier d later heq hd hlater
    rcases concat_eq_append_cons heq with ⟨rfl, rfl, _⟩ | ⟨before, hbefore, rfl⟩
    · exact absurd hd he
    · exact h earlier d before hbefore hd (forall_prefix_concat.mp hlater).1

end

/-- The last selected event of a run, if there is one, has the property of its value and the
events before it. -/
def AtLast {ε α : Type*} (select : ε → Option α) (P : List ε → α → Prop) (events : List ε) : Prop :=
  ∀ earlier e later a, events = earlier ++ e :: later → select e = some a →
    (∀ d ∈ later, select d = none) → P earlier a

section

variable {ε α : Type*} {select : ε → Option α} {P : List ε → α → Prop} {e : ε} {events : List ε}

/-- Here whether an event is selected does not depend on its history. -/
theorem atLast_iff_lastSatisfies :
    AtLast select P events ↔
      LastSatisfies (fun _ e => select e ≠ none) (fun earlier e => ∀ a ∈ select e, P earlier a)
        events := by
  have hnone : ∀ later : List ε, (∀ d ∈ later, select d = none) ↔
      ∀ between d, between ++ [d] <+: later → ¬ select d ≠ none := by
    intro later
    constructor
    · exact fun h between d hpre hd => hd (h d (hpre.subset (by simp)))
    · intro h d hd
      obtain ⟨between, rest, rfl⟩ := List.append_of_mem hd
      exact not_not.mp (h between d ⟨rest, by simp⟩)
  constructor
  · exact fun h earlier e later heq _ hlater a ha =>
      h earlier e later a heq ha ((hnone later).mpr hlater)
  · intro h earlier e later a heq ha hlater
    exact h earlier e later heq (by simp [ha]) ((hnone later).mp hlater) a ha

@[simp] theorem atLast_nil : AtLast select P [] :=
  atLast_iff_lastSatisfies.mpr lastSatisfies_nil

/-- A selected event at the end is the last one. -/
theorem atLast_concat_of_some {a : α} (he : select e = some a) :
    AtLast select P (events ++ [e]) ↔ P events a := by
  rw [atLast_iff_lastSatisfies, lastSatisfies_concat_of_selects (by simp [he])]
  simp [he]

/-- Any other event at the end leaves the last one where it is. -/
theorem atLast_concat_of_none (he : select e = none) :
    AtLast select P (events ++ [e]) ↔ AtLast select P events := by
  rw [atLast_iff_lastSatisfies, atLast_iff_lastSatisfies,
    lastSatisfies_concat_of_not_selects (by simp [he])]

end

variable {σ ε : Type*} (step : σ → ε → σ)

/-- After every event of the run, the new state and the event are related by `P`. -/
def AfterEach (P : σ → ε → Prop) (s : σ) (events : List ε) : Prop :=
  ∀ earlier e, earlier ++ [e] <+: events → P ((earlier ++ [e]).foldl step s) e

/-- Every state of the run, the first one included, has the property. -/
def Throughout (P : σ → Prop) (s : σ) (events : List ε) : Prop :=
  ∀ earlier, earlier <+: events → P (earlier.foldl step s)

/-- Every event of the run is admitted by the state in which it happens. -/
def Guarded (guard : σ → ε → Prop) (s : σ) (events : List ε) : Prop :=
  ∀ earlier e, earlier ++ [e] <+: events → guard (earlier.foldl step s) e

/-- The places in a nonempty run are its first event and the places after it. -/
private theorem forall_snoc_prefix_cons {Q : List ε → ε → Prop} {e : ε} {events : List ε} :
    (∀ earlier d, earlier ++ [d] <+: e :: events → Q earlier d) ↔
      Q [] e ∧ ∀ earlier d, earlier ++ [d] <+: events → Q (e :: earlier) d := by
  constructor
  · intro h
    refine ⟨h [] e (by simp), fun earlier d hpre => h (e :: earlier) d ?_⟩
    rw [List.cons_append, List.cons_prefix_cons]
    exact ⟨rfl, hpre⟩
  · rintro ⟨hfirst, hrest⟩ earlier d hpre
    cases earlier with
    | nil =>
      rw [List.nil_append, List.cons_prefix_cons] at hpre
      rw [hpre.1]
      exact hfirst
    | cons c earlier =>
      rw [List.cons_append, List.cons_prefix_cons] at hpre
      rw [hpre.1]
      exact hrest earlier d hpre.2

variable {step} {P guard : σ → ε → Prop} {s : σ} {e : ε} {events : List ε}

@[simp] theorem afterEach_nil : AfterEach step P s [] := by
  simp [AfterEach]

@[simp] theorem guarded_nil : Guarded step guard s [] := by
  simp [Guarded]

/-- A property holds after each event if it does after the first and each later one. -/
theorem afterEach_cons : AfterEach step P s (e :: events) ↔
    P (step s e) e ∧ AfterEach step P (step s e) events := by
  unfold AfterEach
  rw [forall_snoc_prefix_cons]
  rfl

/-- A run is guarded if its first event is admitted and the rest is guarded. -/
theorem guarded_cons : Guarded step guard s (e :: events) ↔
    guard s e ∧ Guarded step guard (step s e) events := by
  unfold Guarded
  rw [forall_snoc_prefix_cons]
  rfl

/-- A run is guarded if its last event is admitted and the run before it is guarded. -/
theorem guarded_concat : Guarded step guard s (events ++ [e]) ↔
    Guarded step guard s events ∧ guard (events.foldl step s) e :=
  forall_prefix_concat

/-- A run is guarded if its two parts are, one after the other. -/
theorem guarded_append {later : List ε} : Guarded step guard s (events ++ later) ↔
    Guarded step guard s events ∧ Guarded step guard (events.foldl step s) later := by
  induction events generalizing s with
  | nil => simp
  | cons e events ih =>
    rw [List.cons_append, guarded_cons, guarded_cons, ih, and_assoc, List.foldl_cons]

/-- A guard that only looks at the events is checked event by event. -/
theorem guarded_of_forall {admitted : ε → Prop} (h : ∀ e ∈ events, admitted e) :
    Guarded step (fun _ e => admitted e) s events :=
  fun earlier e hpre => h e (hpre.subset (List.mem_append_right earlier List.mem_cons_self))

/-- A guarded run ends in the invariant that its admitted steps preserve. -/
theorem invariant_of_guarded {Inv : σ → Prop}
    (hstep : ∀ s e, Inv s → guard s e → Inv (step s e)) (hs : Inv s)
    (hguarded : Guarded step guard s events) : Inv (events.foldl step s) := by
  induction events generalizing s with
  | nil => exact hs
  | cons e events ih =>
    rw [guarded_cons] at hguarded
    exact ih (hstep s e hs hguarded.1) hguarded.2

/-- **Exact guards.** If from states of the invariant a step establishes the property
exactly when it is admitted, the property holds after each event of a run exactly when
the run is guarded. -/
theorem afterEach_iff_guarded {Inv : σ → Prop}
    (hexact : ∀ s e, Inv s → (P (step s e) e ↔ guard s e))
    (hinv : ∀ s e, Inv s → P (step s e) e → Inv (step s e)) (hs : Inv s) :
    AfterEach step P s events ↔ Guarded step guard s events := by
  induction events generalizing s with
  | nil => simp
  | cons e events ih =>
    rw [afterEach_cons, guarded_cons, hexact s e hs]
    constructor
    · rintro ⟨hguard, hrest⟩
      exact ⟨hguard, (ih (hinv s e hs ((hexact s e hs).mpr hguard))).mp hrest⟩
    · rintro ⟨hguard, hrest⟩
      exact ⟨hguard, (ih (hinv s e hs ((hexact s e hs).mpr hguard))).mpr hrest⟩

/-- The states of a run are the first one and those after its events. -/
theorem throughout_iff_afterEach {P : σ → Prop} :
    Throughout step P s events ↔ P s ∧ AfterEach step (fun s _ => P s) s events := by
  constructor
  · exact fun h => ⟨h [] List.nil_prefix, fun earlier e hpre => h (earlier ++ [e]) hpre⟩
  · rintro ⟨hfirst, hafter⟩ earlier hpre
    cases earlier using List.reverseRecOn with
    | nil => exact hfirst
    | append_singleton earlier e => exact hafter earlier e hpre

/-- **Exact invariants.** If the states of an invariant have the property, admitted steps
preserve the invariant and other steps break the property, a run has the property throughout
exactly when it is guarded. -/
theorem throughout_iff_guarded {P Inv : σ → Prop} (hP : ∀ s, Inv s → P s)
    (hinv : ∀ s e, Inv s → guard s e → Inv (step s e))
    (hguard : ∀ s e, Inv s → P (step s e) → guard s e) (hs : Inv s) :
    Throughout step P s events ↔ Guarded step guard s events := by
  rw [throughout_iff_afterEach, and_iff_right (hP s hs)]
  refine afterEach_iff_guarded (fun s e hs => ?_) (fun s e hs h => ?_) hs
  · exact ⟨hguard s e hs, fun h => hP _ (hinv s e hs h)⟩
  · exact hinv s e hs (hguard s e hs h)

end Runs
