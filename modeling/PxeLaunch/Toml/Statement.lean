import PxeLaunch.Toml.Entry
import PxeLaunch.Toml.Scalar
import PxeLaunch.Toml.Text

/-!
The statements of a document: headers, and assignments of values to keys. Arrays and inline tables
are read here too; an inline table is built by the rules for keys that hold for the whole document.
-/

set_option autoImplicit false

namespace PxeLaunch.Toml

/-- A statement of a document. -/
inductive Statement where
  | header (path : List String)
  | arrayHeader (path : List String)
  | assignment (path : List String) (value : Value)

/-- What a reading step finds, and what is left of the text. -/
abbrev Found (α : Type) := Option (α × List Char)

namespace Statement

/-- Values and keys may nest less deep than this. -/
def depthLimit : Nat := 80

/-- The text after leading blanks. -/
def dropBlanks (cs : List Char) : List Char := cs.dropWhile Text.isBlank

/-- The text after blanks, newlines and comments. -/
def dropTrivia (inComment : Bool) : List Char → Option (List Char)
  | [] => some []
  | '\n' :: rest => dropTrivia false rest
  | '\r' :: '\n' :: rest => dropTrivia false rest
  | c :: rest =>
    if inComment then if Text.isPlain c then dropTrivia true rest else none
    else if Text.isBlank c then dropTrivia false rest
    else if c = '#' then dropTrivia true rest
    else some (c :: rest)

/-- The text after the end of a line, which may hold blanks and a comment. -/
def dropLineEnd (inComment : Bool) : List Char → Option (List Char)
  | [] => some []
  | '\n' :: rest => some rest
  | '\r' :: '\n' :: rest => some rest
  | c :: rest =>
    if inComment then if Text.isPlain c then dropLineEnd true rest else none
    else if Text.isBlank c then dropLineEnd false rest
    else if c = '#' then dropLineEnd true rest
    else none

/-- The characters of a key without quotes. -/
def isKeyChar (c : Char) : Bool := c.isAlphanum || c = '_' || c = '-'

/-- Reads one part of a key. -/
def simpleKey (cs : List Char) : Found String :=
  match cs.head? with
  | some '"' | some '\'' => (Text.readKey? cs).map fun (k, rest) => (String.ofList k, rest)
  | _ =>
    let name := cs.takeWhile isKeyChar
    if name.isEmpty then none else some (String.ofList name, cs.dropWhile isKeyChar)

/-- Reads the parts of a key, which have dots between them. -/
def dottedKey (found : List String) : (fuel : Nat) → List Char → Found (List String)
  | 0, _ => none
  | fuel + 1, cs =>
    match simpleKey (dropBlanks cs) with
    | none => none
    | some (k, rest) =>
      match dropBlanks rest with
      | '.' :: after => dottedKey (k :: found) fuel after
      | after =>
        let path := (k :: found).reverse
        if path.length < depthLimit then some (path, after) else none

/-- Reads a key. -/
def key (cs : List Char) : Found (List String) := dottedKey [] (cs.length + 1) cs

mutual

/-- Reads a value; `depth` arrays and inline tables are open around it. -/
def value : (fuel : Nat) → (depth : Nat) → List Char → Found Value
  | 0, _, _ => none
  | fuel + 1, depth, cs =>
    match cs with
    | '"' :: _ => (Text.read? cs).map fun (s, rest) => (.string (String.ofList s), rest)
    | '\'' :: _ => (Text.read? cs).map fun (s, rest) => (.string (String.ofList s), rest)
    | '[' :: rest =>
      if depth + 1 < depthLimit then
        match dropTrivia false rest with
        | some after => elements fuel (depth + 1) [] after
        | none => none
      else none
    | '\x7b' :: rest =>
      if depth + 1 < depthLimit then
        match dropBlanks rest with
        | '\x7d' :: after => some (.table [], after)
        | after => pairs fuel (depth + 1) [] after
      else none
    | _ => Scalar.read? cs

/-- Reads the elements of an array up to its closing bracket. A comma may follow the last one. -/
def elements : (fuel : Nat) → (depth : Nat) → List Value → List Char → Found Value
  | 0, _, _, _ => none
  | fuel + 1, depth, found, cs =>
    match cs with
    | ']' :: rest => some (.array .bracketed found.reverse, rest)
    | _ =>
      match value fuel depth cs with
      | none => none
      | some (v, rest) =>
        match dropTrivia false rest with
        | some (',' :: after) =>
          match dropTrivia false after with
          | some next => elements fuel depth (v :: found) next
          | none => none
        | some (']' :: after) => some (.array .bracketed (v :: found).reverse, after)
        | _ => none

/-- Reads the pairs of an inline table up to its closing brace. -/
def pairs : (fuel : Nat) → (depth : Nat) → Entries → List Char → Found Value
  | 0, _, _, _ => none
  | fuel + 1, depth, found, cs =>
    match key cs with
    | some (path, '=' :: rest) =>
      match value fuel depth (dropBlanks rest) with
      | none => none
      | some (v, rest) =>
        match found.assign path v with
        | none => none
        | some entries =>
          match dropBlanks rest with
          | ',' :: after => pairs fuel depth entries after
          | '\x7d' :: after => some (.table entries.toTable, after)
          | _ => none
    | _ => none

end

/-- Reads the statements of a document. -/
def readFrom (found : List Statement) : (fuel : Nat) → List Char → Option (List Statement)
  | 0, _ => none
  | fuel + 1, cs =>
    match dropTrivia false cs with
    | none => none
    | some [] => some found.reverse
    | some ('[' :: '[' :: rest) =>
      match key rest with
      | some (path, ']' :: ']' :: after) =>
        match dropLineEnd false after with
        | some next => readFrom (.arrayHeader path :: found) fuel next
        | none => none
      | _ => none
    | some ('[' :: rest) =>
      match key rest with
      | some (path, ']' :: after) =>
        match dropLineEnd false after with
        | some next => readFrom (.header path :: found) fuel next
        | none => none
      | _ => none
    | some rest =>
      match key rest with
      | some (path, '=' :: after) =>
        match value (after.length + 1) 0 (dropBlanks after) with
        | none => none
        | some (v, after) =>
          match dropLineEnd false after with
          | some next => readFrom (.assignment path v :: found) fuel next
          | none => none
      | _ => none

/-- The statements of a document, if all of it is well formed. A byte order mark may come first. -/
def read? (cs : List Char) : Option (List Statement) :=
  let body := match cs with
    | '\uFEFF' :: rest => rest
    | _ => cs
  readFrom [] (body.length + 1) body

end Statement

end PxeLaunch.Toml
