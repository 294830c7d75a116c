/-
A part of a larger state.

A channel changes only its own state, but it may stand in a larger world: beside
other channels, or on a bench where somebody else can still reach it.  A lens says
which part of the world it is.  Its laws say that the part is one value, read and
replaced as a whole, and that replacing it touches nothing else.
-/

namespace SmartCard

/-- A part of type `V` in states of type `W`. -/
structure Lens (W V : Type) where
  /-- The part of a state. -/
  get : W → V
  /-- The state with the part replaced. -/
  set : V → W → W
  /-- What was put in is found again. -/
  get_set : ∀ v w, get (set v w) = v
  /-- Putting in what is there changes nothing. -/
  set_get : ∀ w, set (get w) w = w
  /-- Of two values put in, the second counts. -/
  set_set : ∀ v u w, set v (set u w) = set v w

namespace Lens

attribute [simp] get_set set_get set_set

variable {W V : Type}

/-- The state as a part of itself. -/
protected def id : Lens W W where
  get w := w
  set v _ := v
  get_set _ _ := rfl
  set_get _ := rfl
  set_set _ _ _ := rfl

/-- The first of two states side by side. -/
def first : Lens (V × W) V where
  get w := w.1
  set v w := (v, w.2)
  get_set _ _ := rfl
  set_get _ := rfl
  set_set _ _ _ := rfl

/-- The second of two states side by side. -/
def second : Lens (W × V) V where
  get w := w.2
  set v w := (w.1, v)
  get_set _ _ := rfl
  set_get _ := rfl
  set_set _ _ _ := rfl

/-- A part of a part. -/
def within {U : Type} (outer : Lens U W) (part : Lens W V) : Lens U V where
  get u := part.get (outer.get u)
  set v u := outer.set (part.set v (outer.get u)) u
  get_set _ _ := by simp
  set_get _ := by simp
  set_set _ _ _ := by simp

/-- The state with a function applied to the part. -/
def modify (part : Lens W V) (f : V → V) (w : W) : W :=
  part.set (f (part.get w)) w

@[simp] theorem get_modify (part : Lens W V) (f : V → V) (w : W) :
    part.get (part.modify f w) = f (part.get w) := by
  simp [modify]

end Lens

/-- A value in a box. -/
structure Boxed (V : Type) where
  /-- The value inside. -/
  content : V
deriving DecidableEq, Repr

/-- The value inside as a part of the box. -/
def Boxed.inside {V : Type} : Lens (Boxed V) V where
  get box := box.content
  set v _ := { content := v }
  get_set _ _ := rfl
  set_get _ := rfl
  set_set _ _ _ := rfl

end SmartCard
