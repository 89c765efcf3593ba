import PxeLaunch.Profile.Builtin
import PxeLaunch.Profile.Error

/-!
The table of profiles. It has one place for each architecture; what is registered stays as it is
until it is changed on purpose.
-/

set_option autoImplicit false

namespace PxeLaunch

/-- At most one profile in the place of each architecture. -/
structure Registry where
  slot : Architecture → Option Profile

namespace Registry

def empty : Registry := ⟨fun _ => none⟩

/-- The table with another profile in a place. -/
def put (r : Registry) (a : Architecture) (p : Profile) : Registry :=
  ⟨fun b => if b = a then some p else r.slot b⟩

/-- The profile in a place, supported or not. -/
def get? (r : Registry) (a : Architecture) : Option Profile := r.slot a

def contains (r : Registry) (a : Architecture) : Bool := (r.get? a).isSome

/-- The profiles in the order of the architectures. -/
def toList (r : Registry) : List Profile := Architecture.all.filterMap r.get?

def size (r : Registry) : Nat := r.toList.length

def isEmpty (r : Registry) : Bool := r.toList.isEmpty

/-- Takes a profile in at the place of its architecture, which must be free. The table is that
afterwards, be the profile refused or not. -/
def takeIn (r : Registry) (p : Profile) : Registry × Except ProfileError Unit :=
  if r.contains p.architecture then (r, .error (.duplicate p.architecture))
  else match p.checkDevice with
    | .error e => (r, .error e)
    | .ok () => (r.put p.architecture p, .ok ())

/-- The table with one more profile, unless that is refused. -/
def register (r : Registry) (p : Profile) : Except ProfileError Registry :=
  (r.takeIn p).2.map fun () => (r.takeIn p).1

/-- Puts the builtin profile into every free place. -/
def fillBuiltins (r : Registry) : Registry :=
  ⟨fun a => some ((r.get? a).getD (Profile.builtin a))⟩

def builtin : Registry := empty.fillBuiltins

/-- The profile to launch an architecture with. One that is known to fail is not given out. -/
def resolve (r : Registry) (a : Architecture) : Except ProfileError Profile :=
  match r.get? a with
  | none => .error (.unusable a .unregistered)
  | some p =>
    match p.support with
    | .supported => .ok p
    | .unsupported reason => .error (.unusable a (.unsupported reason))

end Registry

end PxeLaunch
