import Reattempt.Bench
import Reattempt.Scripted.Operation

/-!
# A bench for scripted code
-/

namespace Reattempt.Scripted

/-- A bench on which scripted operations are run. -/
abbrev Stand (α : Type) := Bench Fixture (Playing α) α

variable {α : Type}

namespace Stand

def fixture (b : Stand α) : Fixture := b.roster.env

def withFixture (b : Stand α) (f : Fixture) : Stand α :=
  { b with roster := { b.roster with env := f } }

def cancel (b : Stand α) (switch : String) : Stand α := b.withFixture (b.fixture.cancel switch)

/-- The recorded events, and the stand without them. -/
def drain (b : Stand α) : List Event × Stand α :=
  (b.fixture.drain.1, b.withFixture b.fixture.drain.2)

end Stand

end Reattempt.Scripted
