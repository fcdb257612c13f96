import LogOrigin.Framework

/-!
# One thing for each framework

A triple that is read and changed by framework.
-/

namespace LogOrigin

/-- Something for each of the frameworks. -/
structure PerFramework (α : Type) where
  log4j : α
  log4j2 : α
  logback : α
  deriving DecidableEq, Repr

namespace PerFramework

variable {α β : Type}

/-- What there is for a framework. -/
def get (p : PerFramework α) : Framework → α
  | .log4j => p.log4j
  | .log4j2 => p.log4j2
  | .logback => p.logback

/-- Changes what there is for a framework. -/
def set (p : PerFramework α) (f : Framework) (a : α) : PerFramework α :=
  match f with
  | .log4j => { p with log4j := a }
  | .log4j2 => { p with log4j2 := a }
  | .logback => { p with logback := a }

/-- Makes something for each framework. -/
def make (a : Framework → α) : PerFramework α := ⟨a .log4j, a .log4j2, a .logback⟩

/-- What there is for all frameworks, in their order. -/
def toList (p : PerFramework α) : List α := Framework.all.map p.get

@[simp] theorem get_make (a : Framework → α) (f : Framework) : (make a).get f = a f := by
  cases f <;> rfl

@[simp] theorem get_set_self (p : PerFramework α) (f : Framework) (a : α) :
    (p.set f a).get f = a := by
  cases f <;> rfl

/-- Changing one framework's part leaves the others alone. -/
theorem get_set_of_ne (p : PerFramework α) {f g : Framework} (a : α) (h : g ≠ f) :
    (p.set f a).get g = p.get g := by
  cases f <;> cases g <;> simp_all [get, set]

theorem set_set (p : PerFramework α) (f : Framework) (a b : α) :
    (p.set f a).set f b = p.set f b := by
  cases f <;> rfl

/-- Changes of two frameworks' parts can be made in either order. -/
theorem set_comm (p : PerFramework α) {f g : Framework} (a b : α) (h : g ≠ f) :
    (p.set f a).set g b = (p.set g b).set f a := by
  cases f <;> cases g <;> simp_all [set]

end PerFramework

end LogOrigin
