/-!
# Extractor.Failure

How a function ends that has no result. Most of them refuse what they are
given, and whoever called goes on with the reason. A sum that leaves its 64
bits is different: it ends the program, and no caller goes on.
-/

namespace Extractor

/-- How a function ends that has no result. -/
inductive Failure (ε : Type) where
  /-- What it was given is refused; the caller gets the reason. -/
  | refused (reason : ε)
  /-- A sum left its 64 bits, which ends the program. -/
  | overflow
  deriving DecidableEq, Repr, Inhabited

/-- The failure with another reason. -/
def Failure.map {ε ε' : Type} (f : ε → ε') : Failure ε → Failure ε'
  | refused reason => .refused (f reason)
  | overflow => .overflow

/-- What refuses at most, among what may overflow. -/
instance {ε : Type} : MonadLift (Except ε) (Except (Failure ε)) where
  monadLift := Except.mapError .refused

end Extractor
