import Mathlib.Logic.Function.Iterate
import Mathlib.Algebra.GroupWithZero.Nat
import Mathlib.Algebra.BigOperators.Group.List.Basic

/-!
# First-in-first-out event loops

A main thread owns one queue of blocks. It runs the oldest block, and whatever
that block dispatches goes behind everything already queued. These lemmas hold
for every state and every block language: a round of turns runs exactly the
blocks that were queued, and a loop whose blocks lose weight settles.
-/

namespace EventLoop

/-- The state of a thread together with the blocks waiting for it, oldest first. -/
structure Loop (σ β : Type*) where
  /-- What the blocks read and write. -/
  state : σ
  /-- Blocks dispatched and not yet run. -/
  queue : List β
  deriving DecidableEq

/-- Dispatch a block from outside: it waits behind all others. -/
def Loop.post {σ β : Type*} (l : Loop σ β) (b : β) : Loop σ β :=
  { l with queue := l.queue ++ [b] }

section

variable {σ β : Type*} (exec : σ → β → σ × List β)

/-- Run the oldest block; the blocks it dispatches go to the end of the queue.
Nothing happens on an empty queue. -/
def turn (l : Loop σ β) : Loop σ β :=
  match l.queue with
  | [] => l
  | b :: rest => ⟨(exec l.state b).1, rest ++ (exec l.state b).2⟩

@[simp] theorem turn_nil (s : σ) : turn exec ⟨s, []⟩ = ⟨s, []⟩ := rfl

@[simp] theorem turn_cons (s : σ) (b : β) (rest : List β) :
    turn exec ⟨s, b :: rest⟩ = ⟨(exec s b).1, rest ++ (exec s b).2⟩ := rfl

/-- Once the queue is empty, further turns change nothing. -/
theorem turns_of_queue_nil {l : Loop σ β} (h : l.queue = []) (n : ℕ) :
    (turn exec)^[n] l = l := by
  have hfix : turn exec l = l := by
    obtain ⟨s, q⟩ := l
    obtain rfl : q = [] := h
    rfl
  exact Function.iterate_fixed hfix n

/-- Run blocks in order and collect, in order, what they dispatch. -/
def runBlocks : σ → List β → σ × List β
  | s, [] => (s, [])
  | s, b :: bs =>
      let next := runBlocks (exec s b).1 bs
      (next.1, (exec s b).2 ++ next.2)

/-- **One round.** After as many turns as there were blocks in front, exactly
those blocks have run, and what they dispatched waits behind the rest. -/
theorem turns_runBlocks (s : σ) (bs rest : List β) :
    (turn exec)^[bs.length] ⟨s, bs ++ rest⟩ =
      ⟨(runBlocks exec s bs).1, rest ++ (runBlocks exec s bs).2⟩ := by
  induction bs generalizing s rest with
  | nil => simp [runBlocks]
  | cons b bs ih =>
    rw [List.length_cons, Function.iterate_succ_apply, List.cons_append, turn_cons,
      List.append_assoc, ih]
    simp [runBlocks]

/-- A round with nothing waiting behind it. -/
theorem turns_round (s : σ) (bs : List β) :
    (turn exec)^[bs.length] ⟨s, bs⟩ = ⟨(runBlocks exec s bs).1, (runBlocks exec s bs).2⟩ := by
  have h := turns_runBlocks exec s bs []
  rwa [List.append_nil, List.nil_append] at h

/-- In the middle of a round the first blocks have run and the others wait. -/
theorem turns_runBlocks_take (s : σ) (bs : List β) {j : ℕ} (hj : j ≤ bs.length) :
    (turn exec)^[j] ⟨s, bs⟩ =
      ⟨(runBlocks exec s (bs.take j)).1,
        bs.drop j ++ (runBlocks exec s (bs.take j)).2⟩ := by
  have h := turns_runBlocks exec s (bs.take j) (bs.drop j)
  rwa [List.take_append_drop, List.length_take, Nat.min_eq_left hj] at h

/-- The thread becomes idle in the state `t`. -/
def Settles (l : Loop σ β) (t : σ) : Prop := ∃ n, (turn exec)^[n] l = ⟨t, []⟩

/-- While the thread works, `f` keeps the value `a` for some turns and has the value
`b` from then on; it takes no third value. -/
def Switches {ι : Type*} (f : σ → ι) (a b : ι) (l : Loop σ β) : Prop :=
  ∃ t, ∀ j, f ((turn exec)^[j] l).state = if j < t then a else b

variable {exec}

/-- An idle thread has settled. -/
theorem settles_nil (s : σ) : Settles exec ⟨s, []⟩ s := ⟨0, rfl⟩

/-- A thread settles where it settles after its next round. -/
theorem settles_of_round {s t : σ} {bs : List β}
    (h : Settles exec ⟨(runBlocks exec s bs).1, (runBlocks exec s bs).2⟩ t) :
    Settles exec ⟨s, bs⟩ t := by
  obtain ⟨n, hn⟩ := h
  refine ⟨n + bs.length, ?_⟩
  rw [Function.iterate_add_apply, turns_round, hn]

/-- If the next turn already reaches the final value, the observation switches there. -/
theorem switches_of_turn {ι : Type*} {f : σ → ι} {a b : ι} {l : Loop σ β}
    (hl : f l.state = a) (hfinal : ∀ j, f ((turn exec)^[j] (turn exec l)).state = b) :
    Switches exec f a b l := by
  refine ⟨1, fun j => ?_⟩
  cases j with
  | zero => simpa using hl
  | succ j =>
    rw [Function.iterate_succ_apply, if_neg (by omega)]
    exact hfinal j

/-- A round during which the observation keeps its value may be skipped. -/
theorem switches_of_round {ι : Type*} {f : σ → ι} {a b : ι} {s : σ} {bs : List β}
    (hround : ∀ j < bs.length, f (runBlocks exec s (bs.take j)).1 = a)
    (hnext : Switches exec f a b ⟨(runBlocks exec s bs).1, (runBlocks exec s bs).2⟩) :
    Switches exec f a b ⟨s, bs⟩ := by
  obtain ⟨t, ht⟩ := hnext
  refine ⟨bs.length + t, fun j => ?_⟩
  by_cases hj : j < bs.length
  · rw [turns_runBlocks_take exec s bs (Nat.le_of_lt hj), if_pos (by omega)]
    exact hround j hj
  · obtain ⟨i, rfl⟩ := Nat.exists_eq_add_of_le (Nat.not_lt.mp hj)
    rw [Nat.add_comm bs.length i, Function.iterate_add_apply, turns_round, ht i]
    by_cases hi : i < t
    · rw [if_pos hi, if_pos (by omega)]
    · rw [if_neg hi, if_neg (by omega)]

end

/-! ## Settling -/

section

variable {σ β : Type*} (exec : σ → β → σ × List β) (weight : β → ℕ)

/-- The total weight of a queue. -/
def weigh (queue : List β) : ℕ := (queue.map weight).sum

@[simp] theorem weigh_nil : weigh weight [] = 0 := rfl

@[simp] theorem weigh_cons (b : β) (queue : List β) :
    weigh weight (b :: queue) = weight b + weigh weight queue := by
  simp [weigh]

@[simp] theorem weigh_append (left right : List β) :
    weigh weight (left ++ right) = weigh weight left + weigh weight right := by
  simp [weigh]

/-- A block always weighs more than all it dispatches together. -/
def Decreasing : Prop := ∀ s b, weigh weight (exec s b).2 < weight b

/-- Let the thread work until a weighed queue must be empty. -/
def settle (l : Loop σ β) : Loop σ β := (turn exec)^[weigh weight l.queue] l

variable {exec weight}

/-- A turn on a nonempty queue takes weight away. -/
theorem Decreasing.weigh_turn (h : Decreasing exec weight) (l : Loop σ β) :
    weigh weight (turn exec l).queue ≤ weigh weight l.queue - 1 := by
  rcases l with ⟨s, _ | ⟨b, rest⟩⟩
  · simp
  · have hb := h s b
    simp only [turn_cons, weigh_append, weigh_cons]
    omega

/-- A loop of decreasing blocks is idle after at most as many turns as its weight. -/
theorem Decreasing.turns_queue_nil (h : Decreasing exec weight) {l : Loop σ β} {n : ℕ}
    (hn : weigh weight l.queue ≤ n) : ((turn exec)^[n] l).queue = [] := by
  induction n generalizing l with
  | zero =>
    rcases l with ⟨s, _ | ⟨b, rest⟩⟩
    · rfl
    · have hb := h s b
      simp only [weigh_cons] at hn
      omega
  | succ n ih =>
    rw [Function.iterate_succ_apply]
    have hturn := h.weigh_turn l
    exact ih (by omega)

/-- A settled loop is idle. -/
theorem Decreasing.settle_queue (h : Decreasing exec weight) (l : Loop σ β) :
    (settle exec weight l).queue = [] :=
  h.turns_queue_nil (Nat.le_refl _)

/-- However many turns it took, an idle loop is the settled one. -/
theorem Decreasing.turns_eq_settle (h : Decreasing exec weight) {l : Loop σ β} {n : ℕ}
    (hn : ((turn exec)^[n] l).queue = []) : (turn exec)^[n] l = settle exec weight l := by
  have hfirst := turns_of_queue_nil exec hn (weigh weight l.queue)
  have hsecond := turns_of_queue_nil exec (h.settle_queue l) n
  rw [← Function.iterate_add_apply] at hfirst
  rw [settle, ← Function.iterate_add_apply, Nat.add_comm] at hsecond
  rw [← hfirst, hsecond, settle]

/-- Where a thread settles is where enough turns lead. -/
theorem Decreasing.settle_eq (h : Decreasing exec weight) {l : Loop σ β} {t : σ}
    (hl : Settles exec l t) : settle exec weight l = ⟨t, []⟩ := by
  obtain ⟨n, hn⟩ := hl
  rw [← h.turns_eq_settle (n := n) (by rw [hn]), hn]

end

/-! ## Invariants -/

section

variable {σ β : Type*} {exec : σ → β → σ × List β} {I : σ → Prop} {J : β → Prop} {l : Loop σ β}

/-- The state has a property and so has every block that waits. -/
structure Carries (I : σ → Prop) (J : β → Prop) (l : Loop σ β) : Prop where
  state : I l.state
  queue : ∀ b ∈ l.queue, J b

/-- A block with the property may be posted. -/
theorem Carries.post (h : Carries I J l) {b : β} (hb : J b) : Carries I J (l.post b) := by
  refine ⟨h.state, fun c hc => ?_⟩
  rcases List.mem_append.mp hc with hc | hc
  · exact h.queue c hc
  · rw [List.mem_singleton.mp hc]
    exact hb

/-- A turn keeps the properties if every block does, for the state and for what it dispatches. -/
theorem Carries.turn (h : Carries I J l)
    (hexec : ∀ s b, I s → J b → I (exec s b).1 ∧ ∀ c ∈ (exec s b).2, J c) :
    Carries I J (EventLoop.turn exec l) := by
  obtain ⟨s, _ | ⟨b, rest⟩⟩ := l
  · exact h
  · obtain ⟨hstate, hdispatched⟩ := hexec s b h.state (h.queue b List.mem_cons_self)
    refine ⟨hstate, fun c hc => ?_⟩
    rcases List.mem_append.mp hc with hc | hc
    · exact h.queue c (List.mem_cons_of_mem b hc)
    · exact hdispatched c hc

end

end EventLoop
