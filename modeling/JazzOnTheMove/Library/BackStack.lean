import Mathlib.Data.List.Basic

/-!
# Back stacks

Screens lie on a stack, the one in front first. The screen in front stays, starts another
screen over itself, forwards to another screen in its place, or finishes; or it goes up, which
leaves all screens down to its parent and starts the parent anew. `Stacked` says which screen
may lie at the bottom and which over which other; it is kept by every outcome that is allowed
for the screen in front, whatever lies below, and by going up to a screen that fits.
-/

namespace BackStack

variable {α β : Type*}

/-- What the screen in front does. -/
inductive Outcome (α : Type*) where
  | stays (screen : α)
  | starts (screen next : α)
  | forwards (next : α)
  | finishes
  deriving DecidableEq, Repr

namespace Outcome

/-- The stack after an outcome of the screen that was in front of the rest. -/
def apply (rest : List α) : Outcome α → List α
  | .stays screen => screen :: rest
  | .starts screen next => next :: screen :: rest
  | .forwards next => next :: rest
  | .finishes => rest

/-- The outcome in terms of other screens. -/
def map (f : α → β) : Outcome α → Outcome β
  | .stays screen => .stays (f screen)
  | .starts screen next => .starts (f screen) (f next)
  | .forwards next => .forwards (f next)
  | .finishes => .finishes

/-- What is in front acts in the same way in terms of other screens. -/
theorem map_apply (f : α → β) (rest : List α) (outcome : Outcome α) :
    (outcome.apply rest).map f = (outcome.map f).apply (rest.map f) := by
  cases outcome <;> rfl

/-- Only a screen that finishes leaves an empty stack. -/
theorem eq_finishes_of_apply_eq_nil {outcome : Outcome α} {rest : List α}
    (h : outcome.apply rest = []) : outcome = .finishes := by
  cases outcome with
  | finishes => rfl
  | _ => cases h

end Outcome

/-- The stack after the screen in front of the rest has gone up: another screen is in the place
of its parent. If the rest has no parent, only the screen in front is left. -/
def navigateUp (isParent : α → Bool) (next : α) (rest : List α) : List α :=
  match rest.dropWhile fun screen => !isParent screen with
  | [] => rest
  | _ :: below => next :: below

/-- Going up in terms of other screens. -/
theorem map_navigateUp (f : α → β) (isParent : β → Bool) (next : α) (rest : List α) :
    (navigateUp (fun screen => isParent (f screen)) next rest).map f =
      navigateUp isParent (f next) (rest.map f) := by
  unfold navigateUp
  rw [List.dropWhile_map]
  change _ = match (rest.dropWhile fun screen => !isParent (f screen)).map f with
    | [] => rest.map f
    | _ :: below => f next :: below
  cases rest.dropWhile fun screen => !isParent (f screen) <;> rfl

variable (root : α → Prop) (above : α → α → Prop)

/-- A screen may lie at the bottom, or over the first of the screens below it. -/
def Fits (screen : α) : List α → Prop
  | [] => root screen
  | below :: _ => above screen below

/-- Every screen fits the ones below it. -/
inductive Stacked : List α → Prop where
  | nil : Stacked []
  | cons {screen : α} {rest : List α} (hfits : Fits root above screen rest)
      (hrest : Stacked rest) : Stacked (screen :: rest)

/-- A screen fits wherever another one does. -/
structure Replaces (screen next : α) : Prop where
  root : root screen → root next
  above (below : α) : above screen below → above next below

/-- The outcomes that keep a stack in order. -/
inductive Allowed (screen : α) : Outcome α → Prop where
  | stays {next : α} (h : Replaces root above screen next) : Allowed screen (.stays next)
  | starts {next started : α} (h : Replaces root above screen next) (habove : above started next) :
      Allowed screen (.starts next started)
  | forwards {next : α} (h : Replaces root above screen next) : Allowed screen (.forwards next)
  | finishes : Allowed screen .finishes

variable {root above} {screen next : α} {stack rest : List α}

/-- A screen replaces itself. -/
theorem Replaces.refl (screen : α) : Replaces root above screen screen :=
  ⟨id, fun _ => id⟩

/-- What replaces a screen fits where the screen did. -/
theorem Replaces.fits (h : Replaces root above screen next) (hfits : Fits root above screen rest) :
    Fits root above next rest := by
  cases rest with
  | nil => exact h.root hfits
  | cons below rest => exact h.above below hfits

/-- A stack in order has its first screen in place and the rest in order. -/
theorem stacked_cons :
    Stacked root above (screen :: rest) ↔
      Fits root above screen rest ∧ Stacked root above rest := by
  constructor
  · intro h
    cases h with
    | cons hfits hrest => exact ⟨hfits, hrest⟩
  · rintro ⟨hfits, hrest⟩
    exact .cons hfits hrest

/-- A screen that lies over no other is at the bottom. -/
theorem Stacked.root_of_not_above (h : Stacked root above (screen :: rest))
    (hnot : ∀ below, ¬ above screen below) : rest = [] ∧ root screen := by
  have hfits := (stacked_cons.mp h).1
  cases rest with
  | nil => exact ⟨rfl, hfits⟩
  | cons below rest => exact absurd hfits (hnot below)

/-- A screen at the bottom is a stack. -/
theorem stacked_singleton (h : root screen) : Stacked root above [screen] :=
  .cons h .nil

/-- **Outcome.** An allowed outcome keeps the stack in order. -/
theorem Stacked.apply (h : Stacked root above (screen :: rest)) {outcome : Outcome α}
    (hallowed : Allowed root above screen outcome) : Stacked root above (outcome.apply rest) := by
  obtain ⟨hfits, hrest⟩ := stacked_cons.mp h
  cases hallowed with
  | stays hnext => exact .cons (hnext.fits hfits) hrest
  | starts hnext habove => exact .cons habove (.cons (hnext.fits hfits) hrest)
  | forwards hnext => exact .cons (hnext.fits hfits) hrest
  | finishes => exact hrest

/-- What lies at the end of a stack in order is in order. -/
theorem Stacked.of_suffix (h : Stacked root above stack) {below : List α}
    (hsuffix : below <:+ stack) : Stacked root above below := by
  induction h with
  | nil =>
    rw [List.suffix_nil.mp hsuffix]
    exact .nil
  | @cons screen rest hfits hrest ih =>
    rcases List.suffix_cons_iff.mp hsuffix with rfl | htail
    · exact .cons hfits hrest
    · exact ih htail

/-- **Up.** Going up keeps the stack in order if the new screen fits wherever a parent does. -/
theorem Stacked.navigateUp (h : Stacked root above rest) {isParent : α → Bool}
    (hparent : ∀ parent, isParent parent = true → Replaces root above parent next) :
    Stacked root above (navigateUp isParent next rest) := by
  unfold BackStack.navigateUp
  have hsuffix : (rest.dropWhile fun screen => !isParent screen) <:+ rest :=
    List.dropWhile_suffix _
  have hfirst := List.head?_dropWhile_not (fun screen => !isParent screen) rest
  cases hdrop : rest.dropWhile fun screen => !isParent screen with
  | nil => exact h
  | cons parent below =>
    rw [hdrop] at hsuffix hfirst
    obtain ⟨hfits, hbelow⟩ := stacked_cons.mp (h.of_suffix hsuffix)
    exact .cons ((hparent parent (by simpa using hfirst)).fits hfits) hbelow

/-- Screens may change wherever they lie if that keeps what may lie over what. -/
theorem Stacked.map {f : α → β} {root' : β → Prop} {above' : β → β → Prop}
    (h : Stacked root above stack) (hroot : ∀ s, root s → root' (f s))
    (habove : ∀ s t, above s t → above' (f s) (f t)) : Stacked root' above' (stack.map f) := by
  induction h with
  | nil => exact .nil
  | @cons screen rest hfits hrest ih =>
    refine .cons ?_ ih
    cases rest with
    | nil => exact hroot screen hfits
    | cons below rest => exact habove screen below hfits

end BackStack
