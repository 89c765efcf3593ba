import PxeLaunch.Text.Utf8

/-!
Paths of files. A path is any byte string; slashes separate its components, and neither repeated
slashes nor dots between slashes count. Joining and taking apart leave the spelling as it is.
-/

set_option autoImplicit false

namespace PxeLaunch

/-- A path, as it is spelled. -/
structure Path where
  bytes : Bytes
  deriving Repr, DecidableEq

namespace Path

def ofString (s : String) : Path := ⟨Bytes.ofString s⟩

/-- A path as text, with U+FFFD where it is no UTF-8. -/
def display (p : Path) : String := Utf8.decodeLossy p.bytes

/-- A path as text, if it is UTF-8. -/
def text? (p : Path) : Option String := Utf8.decode? p.bytes

/-- Whether a path starts at the root. -/
def isAbsolute (p : Path) : Bool := p.bytes.head? == some Bytes.slash

/-- A path below another one. An absolute path takes the place of the other one; otherwise a slash
is put between the two unless one is there. -/
def join (p q : Path) : Path :=
  if q.isAbsolute then q
  else if p.bytes.isEmpty || p.bytes.getLast? == some Bytes.slash then ⟨p.bytes ++ q.bytes⟩
  else ⟨p.bytes ++ Bytes.slash :: q.bytes⟩

/-- A path below another one, given by text. -/
def joinText (p : Path) (s : String) : Path := p.join (.ofString s)

/-- A part of a path. -/
inductive Component where
  | root
  | current
  | up
  | name (bytes : Bytes)
  deriving Repr, DecidableEq

/-- The parts of a byte string between slashes. -/
def split : Bytes → List Bytes
  | [] => [[]]
  | b :: rest =>
    if b = Bytes.slash then [] :: split rest
    else match split rest with
      | part :: parts => (b :: part) :: parts
      | [] => [[b]]

/-- The byte of a dot. -/
def dot : UInt8 := 46

/-- Parts that do not count: empty ones and single dots. -/
def isIgnored (part : Bytes) : Bool := part.isEmpty || part == [dot]

/-- The bytes at the front that are no ordinary part: the root, or a leading dot. -/
def front (p : Path) : Bytes :=
  match p.bytes with
  | [] => []
  | b :: rest =>
    if b = Bytes.slash then [b]
    else if b = dot && (rest.isEmpty || rest.head? == some Bytes.slash) then [b]
    else []

/-- The ordinary parts of a path, among them parts that do not count. -/
def parts (p : Path) : List Bytes := split (p.bytes.drop p.front.length)

def componentOf (part : Bytes) : Component := if part == [dot, dot] then .up else .name part

/-- What stands at the front of a path. -/
def frontComponents (p : Path) : List Component :=
  match p.front with
  | [] => []
  | b :: _ => if b = Bytes.slash then [.root] else [.current]

/-- The components of a path. -/
def components (p : Path) : List Component :=
  p.frontComponents ++ (p.parts.filter (!isIgnored ·)).map componentOf

/-- The spelling of parts with slashes between them. -/
def spell (parts : List Bytes) : Bytes := [Bytes.slash].intercalate parts

/-- Parts without those at the end that do not count. -/
def trimmed (parts : List Bytes) : List Bytes := (parts.reverse.dropWhile isIgnored).reverse

/-- The last part that counts. -/
def lastPart? (p : Path) : Option Bytes := (p.parts.reverse.dropWhile isIgnored).head?

/-- The path without its last component. The root has no parent, nor has the empty path. -/
def parent? (p : Path) : Option Path :=
  match p.parts.reverse.dropWhile isIgnored with
  | _ :: others => some ⟨p.front ++ spell (others.dropWhile isIgnored).reverse⟩
  | [] => if p.front == [dot] then some ⟨[]⟩ else none

/-- A path, its parent, the parent of that, and so on; every parent is shorter. -/
def ancestorsFrom : (fuel : Nat) → Path → List Path
  | 0, p => [p]
  | fuel + 1, p =>
    match p.parent? with
    | some q => p :: ancestorsFrom fuel q
    | none => [p]

def ancestors (p : Path) : List Path := ancestorsFrom p.bytes.length p

/-- The last component, if it is a name. -/
def fileName? (p : Path) : Option Bytes :=
  match p.lastPart? with
  | some part => if part == [dot, dot] then none else some part
  | none => none

/-- Whether the components of a path begin with those of another one. -/
def startsWith (p q : Path) : Bool := q.components.isPrefixOf p.components

end Path

end PxeLaunch
