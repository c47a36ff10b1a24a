import Mathlib.Algebra.Ring.Defs

/-!
# Animated properties

An animation moves a property from the value it has when the animation starts to a
target, and starting another one replaces it. Wherever the property is on its way,
where it will come to rest is known at once: at the target of the last animation.
-/

namespace Animations

/-- An animation from a value to a target. -/
structure Animation (α : Type*) where
  start : α
  target : α
  deriving DecidableEq, Repr

/-- A property, with the animation that is moving it. -/
structure Property (α : Type*) where
  value : α
  animation : Option (Animation α)
  deriving DecidableEq, Repr

namespace Property

section

variable {α : Type*}

/-- A property that nothing moves. -/
def still (value : α) : Property α := ⟨value, none⟩

/-- An animation to a target starts from the current value. -/
def animateTo (p : Property α) (target : α) : Property α :=
  { p with animation := some ⟨p.value, target⟩ }

/-- The animation reaches its target. -/
def finish (p : Property α) : Property α :=
  match p.animation with
  | none => p
  | some a => ⟨a.target, none⟩

/-- Where the property will come to rest. -/
def destination (p : Property α) : α :=
  match p.animation with
  | none => p.value
  | some a => a.target

@[simp] theorem destination_still (value : α) : (still value).destination = value := rfl

@[simp] theorem destination_animateTo (p : Property α) (target : α) :
    (p.animateTo target).destination = target := rfl

@[simp] theorem destination_finish (p : Property α) : p.finish.destination = p.destination := by
  obtain ⟨value, animation⟩ := p
  cases animation <;> rfl

@[simp] theorem animation_finish (p : Property α) : p.finish.animation = none := by
  obtain ⟨value, animation⟩ := p
  cases animation <;> rfl

/-- A property that nothing moves is where it will come to rest. -/
theorem value_of_animation_eq_none {p : Property α} (hrest : p.animation = none) :
    p.value = p.destination := by
  unfold destination
  rw [hrest]

end

section

variable {α : Type*} [Ring α]

/-- An animation by a difference starts from the current value. -/
def animateBy (p : Property α) (difference : α) : Property α :=
  p.animateTo (p.value + difference)

/-- The animation has done a fraction of its way. -/
def frame (p : Property α) (fraction : α) : Property α :=
  match p.animation with
  | none => p
  | some a => { p with value := a.start + fraction * (a.target - a.start) }

@[simp] theorem destination_animateBy (p : Property α) (difference : α) :
    (p.animateBy difference).destination = p.value + difference := rfl

@[simp] theorem animation_frame (p : Property α) (fraction : α) :
    (p.frame fraction).animation = p.animation := by
  obtain ⟨value, animation⟩ := p
  cases animation <;> rfl

/-- A frame does not change where the property will come to rest. -/
@[simp] theorem destination_frame (p : Property α) (fraction : α) :
    (p.frame fraction).destination = p.destination := by
  obtain ⟨value, animation⟩ := p
  cases animation <;> rfl

end

end Property

end Animations
