import Literate.Run
import Literate.Settings

/-! # Room for nested calls

The bounds on nesting are promises: a document that keeps to them must not fail because calls nest too
deep. So room for the calls they may need is made before a run starts, on top of the calls that have
begun already. The machine counts calls in a word of 32 bits. Settings that ask for more than it can
count are refused, and nothing of the run is done. -/

namespace Literate

/-- The most calls that the machine can count. -/
def mostCalls : Int := 2147483647

/-- Room for the bounds of the settings can be made where `stack` calls have begun. -/
def Settings.Fits (settings : Settings) (stack : Nat) : Prop :=
  settings.callDepth + stack ≤ mostCalls

instance (settings : Settings) (stack : Nat) : Decidable (settings.Fits stack) :=
  inferInstanceAs (Decidable (_ ≤ _))

def noRoom : Failure := .raised .overflow "Python int too large to convert to C int"

namespace Run

variable {σ α : Type}

/-- Make room for the bounds of the settings and act. -/
def withRoom (settings : Settings) (stack : Nat) (x : Run σ α) : Run σ α :=
  if settings.Fits stack then x else failure noRoom

theorem withRoom_of_fits {settings : Settings} {stack : Nat} (h : settings.Fits stack)
    (x : Run σ α) : x.withRoom settings stack = x := if_pos h

theorem withRoom_of_not_fits {settings : Settings} {stack : Nat} (h : ¬settings.Fits stack)
    (x : Run σ α) : x.withRoom settings stack = failure noRoom := if_neg h

end Run

namespace Settings

/-- Room that can be made where more calls have begun can be made where fewer have. -/
theorem Fits.of_le {settings : Settings} {stack stack' : Nat} (h : settings.Fits stack')
    (hle : stack ≤ stack') : settings.Fits stack := by
  unfold Fits at *
  omega

end Settings
end Literate
