import JazzOnTheMove.Library.Runs
import Mathlib.Data.List.Find
import Mathlib.Data.List.Induction

/-!
# Slots written by jobs that finish late

Jobs are started one after another, each for a slot, and finish in any order. A
job that finishes writes its outcome into its slot, whatever happened to the slot
in the meantime. Once all jobs have finished, a slot holds the outcome of the job
that finished last on it, which need not be the one that was started last.
-/

namespace LateWrites

/-- A job starts for a slot, or the job with a number finishes. Jobs are numbered in
the order in which they start. -/
inductive Event (ι : Type*) where
  | start (slot : ι)
  | finish (job : ℕ)
  deriving DecidableEq, Repr

variable {ι ν : Type*}

/-- The slots of the jobs started, by number. -/
def jobs (events : List (Event ι)) : List ι :=
  events.filterMap fun
    | .start slot => some slot
    | .finish _ => none

/-- The jobs finished, in the order in which they did. -/
def finished (events : List (Event ι)) : List ℕ :=
  events.filterMap fun
    | .start _ => none
    | .finish job => some job

/-- The jobs that have started and not finished. -/
def unfinished (events : List (Event ι)) : List ℕ :=
  (List.range (jobs events).length).filter fun job => job ∉ finished events

/-- A schedule lets only jobs finish that have started and not finished yet. -/
def Schedule (events : List (Event ι)) : Prop :=
  ∀ earlier job, earlier ++ [.finish job] <+: events → job ∈ unfinished earlier

section

variable (events : List (Event ι)) (slot : ι) (job : ℕ)

@[simp] theorem jobs_nil : jobs ([] : List (Event ι)) = [] := rfl

@[simp] theorem jobs_start : jobs (events ++ [.start slot]) = jobs events ++ [slot] := by
  simp [jobs]

@[simp] theorem jobs_finish : jobs (events ++ [.finish job]) = jobs events := by
  simp [jobs]

@[simp] theorem finished_nil : finished ([] : List (Event ι)) = [] := rfl

@[simp] theorem finished_start : finished (events ++ [.start slot]) = finished events := by
  simp [finished]

@[simp] theorem finished_finish :
    finished (events ++ [.finish job]) = finished events ++ [job] := by
  simp [finished]

end

variable {events : List (Event ι)} {slot : ι} {job : ℕ}

/-- A job is unfinished if it has started and not finished. -/
theorem mem_unfinished :
    job ∈ unfinished events ↔ job < (jobs events).length ∧ job ∉ finished events := by
  simp [unfinished]

@[simp] theorem schedule_nil : Schedule ([] : List (Event ι)) := by
  simp [Schedule]

/-- A schedule is one whose last event is possible, after a schedule. -/
private theorem schedule_concat {e : Event ι} :
    Schedule (events ++ [e]) ↔
      Schedule events ∧ ∀ job, e = .finish job → job ∈ unfinished events := by
  have hform : ∀ log : List (Event ι), Schedule log ↔
      ∀ earlier d, earlier ++ [d] <+: log → ∀ job, d = .finish job → job ∈ unfinished earlier := by
    intro log
    constructor
    · rintro h earlier d hpre job rfl
      exact h earlier job hpre
    · exact fun h earlier job hpre => h earlier _ hpre job rfl
  rw [hform, hform, Runs.forall_prefix_concat]

/-- Starting a job is always possible. -/
theorem schedule_start : Schedule (events ++ [.start slot]) ↔ Schedule events := by
  simp [schedule_concat]

/-- The last job to finish was unfinished before. -/
theorem schedule_finish :
    Schedule (events ++ [.finish job]) ↔ Schedule events ∧ job ∈ unfinished events := by
  simp [schedule_concat]

/-- Jobs finish after they started. -/
theorem Schedule.lt_of_mem_finished (h : Schedule events) (hjob : job ∈ finished events) :
    job < (jobs events).length := by
  induction events using List.reverseRecOn with
  | nil => simp at hjob
  | append_singleton events e ih =>
    cases e with
    | start started =>
      rw [finished_start] at hjob
      have hlt := ih (schedule_start.mp h) hjob
      rw [jobs_start, List.length_append]
      omega
    | finish other =>
      obtain ⟨hold, hother⟩ := schedule_finish.mp h
      rw [finished_finish, List.mem_append, List.mem_singleton] at hjob
      rw [jobs_finish]
      rcases hjob with hjob | rfl
      · exact ih hold hjob
      · exact (mem_unfinished.mp hother).1

/-- A job that starts is unfinished, and has the next number. -/
theorem Schedule.mem_unfinished_start (h : Schedule events) :
    job ∈ unfinished (events ++ [.start slot]) ↔
      job ∈ unfinished events ∨ job = (jobs events).length := by
  have hnew : (jobs events).length ∉ finished events :=
    fun hmem => Nat.lt_irrefl _ (h.lt_of_mem_finished hmem)
  rw [mem_unfinished, mem_unfinished, jobs_start, finished_start, List.length_append,
    List.length_singleton]
  constructor
  · rintro ⟨hlt, hnot⟩
    by_cases hold : job < (jobs events).length
    · exact Or.inl ⟨hold, hnot⟩
    · exact Or.inr (by omega)
  · rintro (⟨hlt, hnot⟩ | rfl)
    · exact ⟨by omega, hnot⟩
    · exact ⟨by omega, hnew⟩

/-- A job that finishes is the only one no longer unfinished. -/
theorem mem_unfinished_finish {other : ℕ} :
    other ∈ unfinished (events ++ [.finish job]) ↔ other ∈ unfinished events ∧ other ≠ job := by
  rw [mem_unfinished, mem_unfinished, jobs_finish, finished_finish, List.mem_append,
    List.mem_singleton, not_or, and_assoc]

variable [DecidableEq ι]

/-- The job started last for a slot. -/
def lastStart (events : List (Event ι)) (slot : ι) : Option ℕ :=
  (List.range (jobs events).length).reverse.find? fun job => (jobs events)[job]? = some slot

/-- The job finished last on a slot. -/
def lastFinish (events : List (Event ι)) (slot : ι) : Option ℕ :=
  (finished events).reverse.find? fun job => (jobs events)[job]? = some slot

/-- The job started last for a slot is one of its jobs. -/
theorem getElem?_of_lastStart (h : lastStart events slot = some job) :
    (jobs events)[job]? = some slot := by
  have hfound := List.find?_some h
  simpa using hfound

/-- The job started last for a slot has a number. -/
theorem lt_of_lastStart (h : lastStart events slot = some job) : job < (jobs events).length :=
  (List.getElem?_eq_some_iff.mp (getElem?_of_lastStart h)).1

/-- So does the job finished last on it. -/
theorem Schedule.lt_of_lastFinish (h : Schedule events)
    (hlast : lastFinish events slot = some job) : job < (jobs events).length :=
  h.lt_of_mem_finished (List.mem_reverse.mp (List.mem_of_find?_eq_some hlast))

/-- Starting a job does not change which job finished last on a slot. -/
theorem Schedule.lastFinish_start (h : Schedule events) (slot started : ι) :
    lastFinish (events ++ [.start started]) slot = lastFinish events slot := by
  unfold lastFinish
  rw [finished_start, jobs_start]
  refine List.find?_congr fun job hjob => ?_
  have hlt := h.lt_of_mem_finished (List.mem_reverse.mp hjob)
  rw [List.getElem?_append_left hlt]

/-- A finishing job is the last one on its slot and changes nothing on others. -/
theorem lastFinish_finish (slot : ι) :
    lastFinish (events ++ [.finish job]) slot =
      if (jobs events)[job]? = some slot then some job else lastFinish events slot := by
  unfold lastFinish
  rw [finished_finish, jobs_finish, List.reverse_append, List.reverse_singleton,
    List.singleton_append, List.find?_cons]
  by_cases hslot : (jobs events)[job]? = some slot
  · simp [hslot]
  · simp [hslot]

/-- What the slots may hold after the events of a schedule: a start only touches its own
slot, and a finishing job writes its outcome into its slot and touches no other. -/
inductive Board (outcome : ℕ → ν) : List (Event ι) → (ι → ν) → Prop
  | nil (value : ι → ν) : Board outcome [] value
  | start {events : List (Event ι)} {value next : ι → ν} {started : ι} :
      Board outcome events value → (∀ slot, slot ≠ started → next slot = value slot) →
      Board outcome (events ++ [.start started]) next
  | finish {events : List (Event ι)} {value next : ι → ν} {job : ℕ} :
      Board outcome events value → job ∈ unfinished events →
      (∀ slot, next slot =
        if (jobs events)[job]? = some slot then outcome job else value slot) →
      Board outcome (events ++ [.finish job]) next

/-- The events of a board form a schedule. -/
theorem Board.schedule {outcome : ℕ → ν} {value : ι → ν} (h : Board outcome events value) :
    Schedule events := by
  induction h with
  | nil => exact schedule_nil
  | start _ _ ih => exact schedule_start.mpr ih
  | finish _ hjob _ ih => exact schedule_finish.mpr ⟨ih, hjob⟩

/-- **Late writes.** Once all jobs on a slot have finished, the slot holds the outcome of
the one that finished last. -/
theorem Board.value_eq_lastFinish {outcome : ℕ → ν} {value : ι → ν}
    (h : Board outcome events value) (hslot : slot ∈ jobs events)
    (hall : ∀ job ∈ unfinished events, (jobs events)[job]? ≠ some slot) :
    ∃ job, lastFinish events slot = some job ∧ value slot = outcome job := by
  induction h with
  | nil => simp at hslot
  | @start events value next started h hnext ih =>
    -- the job just started is unfinished, so it is not on this slot
    have hne : slot ≠ started := by
      rintro rfl
      exact hall (jobs events).length (h.schedule.mem_unfinished_start.mpr (Or.inr rfl)) (by simp)
    have hmem : slot ∈ jobs events := by
      rw [jobs_start, List.mem_append, List.mem_singleton] at hslot
      exact hslot.resolve_right hne
    have hold : ∀ job ∈ unfinished events, (jobs events)[job]? ≠ some slot := by
      intro job hjob
      have hnew := hall job (h.schedule.mem_unfinished_start.mpr (Or.inl hjob))
      rwa [jobs_start, List.getElem?_append_left (mem_unfinished.mp hjob).1] at hnew
    obtain ⟨job, hlast, hvalue⟩ := ih hmem hold
    exact ⟨job, by rw [h.schedule.lastFinish_start, hlast], by rw [hnext slot hne, hvalue]⟩
  | @finish events value next job h hjob hnext ih =>
    rw [lastFinish_finish, hnext slot]
    by_cases hjobslot : (jobs events)[job]? = some slot
    · exact ⟨job, by rw [if_pos hjobslot], by rw [if_pos hjobslot]⟩
    · rw [if_neg hjobslot, if_neg hjobslot]
      rw [jobs_finish] at hslot
      refine ih hslot fun other hother => ?_
      by_cases hsame : other = job
      · rwa [hsame]
      · have hnew := hall other (mem_unfinished_finish.mpr ⟨hother, hsame⟩)
        rwa [jobs_finish] at hnew

end LateWrites
