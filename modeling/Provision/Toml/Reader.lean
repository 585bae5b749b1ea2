import Provision.Toml.Document
import Provision.Toml.Quoted
import Provision.Toml.Scalar

/-!
Reading of TOML documents. Values are nested no deeper than `maxDepth`, which is what the recursion
of `value?` counts; a loop over the items of a list or the lines of a document takes no more rounds
than there are characters left.
-/

namespace Provision.Toml

def skipSpaces (cs : List Char) : List Char := cs.dropWhile isSpace

/-- Skips the rest of a line that holds nothing more than a comment, and its newline. -/
def lineEnd? (cs : List Char) : Option (List Char) :=
  let rest := match skipSpaces cs with
    | '#' :: comment => comment.dropWhile isPrintable
    | rest => rest
  if rest.isEmpty then some [] else newline? rest

/-- Skips blanks, comments and newlines inside of an array. -/
def skipLines? (inComment : Bool) : List Char → Option (List Char)
  | [] => some []
  | '\n' :: rest => skipLines? false rest
  | '\r' :: '\n' :: rest => skipLines? false rest
  | c :: rest =>
    if inComment then
      if isPrintable c then skipLines? true rest else none
    else if isSpace c then skipLines? false rest
    else if c = '#' then skipLines? true rest
    else some (c :: rest)

def isBareKey (c : Char) : Bool := c.isAlphanum || c == '_' || c == '-'

/-- One part of a key. -/
def keyPart? (cs : List Char) : Option (String × List Char) :=
  match cs with
  | '"' :: rest => Quoted.single? '"' rest
  | '\'' :: rest => Quoted.single? '\'' rest
  | cs =>
    let bare := cs.takeWhile isBareKey
    if bare.isEmpty then none else some (String.ofList bare, cs.dropWhile isBareKey)

/-- A key of at most `limit` parts with blanks around it, as the path to its last part and that
part. -/
def key? (limit : Nat) (cs : List Char) : Option ((List String × String) × List Char) :=
  match limit with
  | 0 => none
  | limit + 1 => do
    let (part, rest) ← keyPart? (skipSpaces cs)
    match skipSpaces rest with
    | '.' :: rest =>
      let ((path, key), rest) ← key? limit rest
      return ((part :: path, key), rest)
    | rest => return (([], part), rest)

/-- Items up to the closing bracket, each read by `item`. -/
def items? (item : List Char → Option (Toml × List Char)) :
    Nat → List Char → Option (List Toml × List Char)
  | 0, _ => none
  | rounds + 1, cs => do
    match ← skipLines? false cs with
    | ']' :: rest => return ([], rest)
    | cs =>
      let (v, rest) ← item cs
      match ← skipLines? false rest with
      | ',' :: rest =>
        let (vs, rest) ← items? item rounds rest
        return (v :: vs, rest)
      | ']' :: rest => return ([v], rest)
      | _ => none

/-- Entries up to the closing brace, each value read by `item`. -/
def entries? (item : List Char → Option (Toml × List Char)) :
    Nat → Node.Entries → List Char → Option (Node.Entries × List Char)
  | 0, _, _ => none
  | rounds + 1, entries, cs => do
    let ((path, key), rest) ← key? maxDepth cs
    match rest with
    | '=' :: rest =>
      let (v, rest) ← item (skipSpaces rest)
      let entries ← Node.enter? path key v .header entries
      match skipSpaces rest with
      | ',' :: rest => entries? item rounds entries rest
      | '\x7d' :: rest => return (entries, rest)
      | _ => none
    | _ => none

/-- A value in which arrays and inline tables are nested no deeper than `depth`. -/
def value? (depth : Nat) (cs : List Char) : Option (Toml × List Char) :=
  match cs with
  | '"' :: rest => (Quoted.any? '"' rest).map fun (s, rest) => (.string s, rest)
  | '\'' :: rest => (Quoted.any? '\'' rest).map fun (s, rest) => (.string s, rest)
  | '[' :: rest =>
    match depth with
    | 0 => none
    | depth + 1 => do
      let (vs, rest) ← items? (value? depth) (rest.length + 1) rest
      return (.array vs, rest)
  | '\x7b' :: rest =>
    match depth with
    | 0 => none
    | depth + 1 =>
      match skipSpaces rest with
      | '\x7d' :: rest => some (.table [], rest)
      | rest => do
        let (entries, rest) ← entries? (value? depth) (rest.length + 1) [] rest
        return (.table (Node.toTomlEntries entries), rest)
  | cs => Scalar.read? cs

/-- A header of one table, or of one more of a repeated table, and the end of its line. -/
def header? (d : Document) (repeated : Bool) (cs : List Char) :
    Option (Document × List Char) := do
  let ((path, key), rest) ← key? maxDepth cs
  let d ← d.open? repeated path key
  match repeated, rest with
  | true, ']' :: ']' :: rest => return (d, ← lineEnd? rest)
  | false, ']' :: rest => return (d, ← lineEnd? rest)
  | _, _ => none

/-- An entry and the end of its line. -/
def entry? (d : Document) (cs : List Char) : Option (Document × List Char) := do
  let ((path, key), rest) ← key? maxDepth cs
  match rest with
  | '=' :: rest =>
    let (v, rest) ← value? maxDepth (skipSpaces rest)
    return (← d.enter? path key v, ← lineEnd? rest)
  | _ => none

/-- One line, with all lines that its value goes over. -/
def line? (d : Document) (cs : List Char) : Option (Document × List Char) :=
  match skipSpaces cs with
  | '[' :: '[' :: rest => header? d true rest
  | '[' :: rest => header? d false rest
  | '#' :: rest => (lineEnd? ('#' :: rest)).map fun rest => (d, rest)
  | '\n' :: rest => some (d, rest)
  | '\r' :: '\n' :: rest => some (d, rest)
  | rest => entry? d rest

def lines? : Nat → Document → List Char → Option Document
  | 0, _, _ => none
  | rounds + 1, d, cs =>
    if (skipSpaces cs).isEmpty then some d
    else do
      let (d, rest) ← line? d cs
      lines? rounds d rest

/-- Reads all of a text as a document; a byte order mark may stand in front. -/
def read? (text : List Char) : Option (List (String × Toml)) :=
  let cs := match text with
    | '\ufeff' :: rest => rest
    | cs => cs
  (lines? (cs.length + 1) Document.empty cs).map Document.toToml

end Provision.Toml
