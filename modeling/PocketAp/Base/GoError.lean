import Mathlib.Logic.Basic

/-!
# Go error values

Library `Base`. An error is a sentinel, a text of its own, or wraps one or two others
through `fmt.Errorf` and `%w`. `is` follows the chain the way `errors.Is` does for
sentinels, which are compared by identity.
-/

namespace PocketAp.Base

/-- Errors over the sentinels `S`; `message` is the text `Error()` returns. -/
inductive GoError (S : Type) where
  | sentinel (s : S)
  | text (message : String)
  | wrap (message : String) (inner : GoError S)
  | join (message : String) (left right : GoError S)
  deriving DecidableEq, Repr

namespace GoError

variable {S : Type} [ToString S] [DecidableEq S]

/-- The text of an error. -/
def message : GoError S → String
  | sentinel s => toString s
  | text m => m
  | wrap m _ => m
  | join m _ _ => m

/-- `errors.Is` for a sentinel. -/
def is (target : S) : GoError S → Bool
  | sentinel s => decide (s = target)
  | text _ => false
  | wrap _ e => e.is target
  | join _ l r => l.is target || r.is target

/-- `fmt.Errorf` with one `%w` at the end of the format. -/
def errorf (pre : String) (e : GoError S) : GoError S := wrap (pre ++ e.message) e

/-- `fmt.Errorf("%w: %w", l, r)`. -/
def errorf₂ (l r : GoError S) : GoError S := join (l.message ++ ": " ++ r.message) l r

/-- `fmt.Errorf` of an error that may be nil. -/
def errorfOption (pre : String) : Option (GoError S) → GoError S
  | some e => errorf pre e
  | none => text (pre ++ "%!w(<nil>)")

/-- The chain of an error, followed the way `errors.Is` does, reaches `target`. -/
inductive Wraps (target : GoError S) : GoError S → Prop where
  | refl : Wraps target target
  | wrap (message : String) {inner : GoError S} (h : Wraps target inner) :
      Wraps target (.wrap message inner)
  | left (message : String) {l r : GoError S} (h : Wraps target l) : Wraps target (.join message l r)
  | right (message : String) {l r : GoError S} (h : Wraps target r) :
      Wraps target (.join message l r)

omit [DecidableEq S] in
/-- Wrapping once more keeps what is wrapped. -/
theorem Wraps.errorf {target e : GoError S} (h : Wraps target e) (pre : String) :
    Wraps target (errorf pre e) := .wrap _ h

omit [ToString S] in
/-- A sentinel is itself. -/
@[simp]
theorem is_sentinel_self (s : S) : (sentinel s).is s = true := by
  simp [is]

/-- Wrapping keeps `errors.Is` working. -/
@[simp]
theorem is_errorf (target : S) (pre : String) (e : GoError S) :
    (errorf pre e).is target = e.is target := rfl

end GoError

/-- A loop that returns the first error. -/
def firstError {ε α : Type} (check : α → Except ε Unit) : List α → Except ε Unit
  | [] => .ok ()
  | a :: as =>
    match check a with
    | .error e => .error e
    | .ok () => firstError check as

/-- Without a first error every check has passed. -/
theorem firstError_ok {ε α : Type} {check : α → Except ε Unit} {as : List α}
    (h : firstError check as = .ok ()) : ∀ a ∈ as, check a = .ok () := by
  induction as with
  | nil => simp
  | cons a as ih =>
    unfold firstError at h
    split at h
    · cases h
    · next ha =>
      intro b hb
      rcases List.mem_cons.mp hb with rfl | hb
      · exact ha
      · exact ih h b hb

end PocketAp.Base
