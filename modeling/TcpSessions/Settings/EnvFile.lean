import TcpSessions.Text.Blank
/-!
# Environment files

The text of an environment file holds one binding after another: a name, and after an equals sign
a bare, single-quoted or double-quoted value. A part that cannot be read as a binding is skipped up
to the end of its line. References to other variables in a value are replaced when the bindings are
resolved in order.
-/
namespace TcpSessions.EnvFile

/-- A binding as it is written; a name without an equals sign has no value. -/
abbrev Binding := String × Option String

/-- The text with every kind of line end as a single line feed, and without a leading mark of the
byte order. -/
def normalize (s : List Char) : List Char :=
  let rec lines : List Char → List Char
    | '\r' :: '\n' :: r => '\n' :: lines r
    | '\r' :: r => '\n' :: lines r
    | c :: r => c :: lines r
    | [] => []
  match s with
  | '\uFEFF' :: r => lines r
  | _ => lines s

/-- White space within a line. -/
def isGap (c : Char) : Bool := Text.isBlank c && c ≠ '\n' && c ≠ '\r'

def skipGaps (s : List Char) : List Char := s.dropWhile isGap

def skipLine (s : List Char) : List Char := (s.dropWhile (· ≠ '\n')).drop 1

/-- What follows the word `export` with a gap behind it, when the text starts so. -/
def skipExport (s : List Char) : List Char :=
  let word := "export".toList
  let rest := s.drop word.length
  if word.isPrefixOf s ∧ rest.head?.any isGap then skipGaps rest else s

/-- The contents of a quotation and what follows it. The quotation ends at the first quote that no
backslash takes for itself; a backslash takes whatever character follows it. -/
def readQuotation? (quote : Char) : List Char → Option (List Char × List Char)
  | [] => none
  | '\\' :: c :: r => (readQuotation? quote r).map fun (v, rest) => ('\\' :: c :: v, rest)
  | c :: r =>
    if c = quote then some ([], r)
    else (readQuotation? quote r).map fun (v, rest) => (c :: v, rest)

def singleEscape? : Char → Option Char
  | '\\' => some '\\'
  | '\'' => some '\''
  | _ => none

def doubleEscape? : Char → Option Char
  | '\\' => some '\\'
  | '\'' => some '\''
  | '"' => some '"'
  | 'a' => some '\x07'
  | 'b' => some '\x08'
  | 'f' => some '\x0c'
  | 'n' => some '\n'
  | 'r' => some '\r'
  | 't' => some '\t'
  | 'v' => some '\x0b'
  | _ => none

/-- Replaces escapes; a backslash before any other character stays. -/
def unescape (escape? : Char → Option Char) : List Char → List Char
  | '\\' :: c :: r =>
    match escape? c with
    | some d => d :: unescape escape? r
    | none => '\\' :: unescape escape? (c :: r)
  | c :: r => c :: unescape escape? r
  | [] => []
termination_by s => s.length

/-- A line up to the first number sign that has white space before it. -/
def cutComment (afterBlank : Bool) : List Char → List Char
  | [] => []
  | c :: r =>
    if c = '#' ∧ afterBlank then [] else c :: cutComment (Text.isBlank c) r

/-- The value after an equals sign and its gap, and what follows; `gap` tells whether the gap was
not empty. -/
def readValue? (gap : Bool) (s : List Char) : Option (List Char × List Char) :=
  match s with
  | '\'' :: r => (readQuotation? '\'' r).map fun (v, rest) => (unescape singleEscape? v, rest)
  | '"' :: r => (readQuotation? '"' r).map fun (v, rest) => (unescape doubleEscape? v, rest)
  | '#' :: _ =>
    if gap then some ([], s)
    else
      let line := s.takeWhile (· ≠ '\n')
      some (Text.trimRight (cutComment false line), s.dropWhile (· ≠ '\n'))
  | _ =>
    let line := s.takeWhile (· ≠ '\n')
    some (Text.trimRight (cutComment false line), s.dropWhile (· ≠ '\n'))

/-- The name of a binding, none for a comment line, and what follows. -/
def readName? (s : List Char) : Option (Option (List Char) × List Char) :=
  match s with
  | '#' :: _ => some (none, s)
  | '\'' :: r =>
    let name := r.takeWhile (· ≠ '\'')
    match r.dropWhile (· ≠ '\'') with
    | _ :: rest => if name.isEmpty then none else some (some name, rest)
    | [] => none
  | _ =>
    let inName (c : Char) : Bool := c ≠ '=' && c ≠ '#' && !Text.isBlank c
    let name := s.takeWhile inName
    if name.isEmpty then none else some (some name, s.dropWhile inName)

/-- What follows an optional comment and the end of the line, which has to come. -/
def endLine? (s : List Char) : Option (List Char) :=
  let s := match skipGaps s with
    | '#' :: r => r.dropWhile (· ≠ '\n')
    | _ => s
  match skipGaps s with
  | [] => some []
  | '\n' :: r => some r
  | _ => none

/-- One binding, none for a comment or a part that is skipped, and what follows. -/
def readBinding (s : List Char) : Option Binding × List Char :=
  let s := s.dropWhile Text.isBlank
  if s.isEmpty then (none, [])
  else
    let s := skipExport s
    match readName? s with
    | none => (none, skipLine s)
    | some (name, rest) =>
      let rest := skipGaps rest
      let value? : Option (Option (List Char) × List Char) × List Char := match rest with
        | '=' :: r =>
          let after := skipGaps r
          ((readValue? (r.head?.any isGap) after).map fun (v, rest) => (some v, rest), after)
        | _ => (some (none, rest), rest)
      match value? with
      | (none, after) => (none, skipLine after)
      | (some (value, rest), _) =>
        match endLine? rest with
        | none => (none, skipLine rest)
        | some after => (name.map fun n => (String.ofList n, value.map String.ofList), after)

def readBindings : Nat → List Char → List Binding
  | 0, _ => []
  | bound + 1, s =>
    if s.isEmpty then []
    else
      let (binding, rest) := readBinding s
      binding.toList ++ readBindings bound rest

/-- A reference to a variable after its opening, with its name, its default and what follows. -/
def readReference? (s : List Char) : Option (List Char × List Char × List Char) :=
  let stops (c : Char) : Bool := c = '\x7d' || c = ':'
  let name := s.takeWhile (!stops ·)
  match s.dropWhile (!stops ·) with
  | '\x7d' :: rest => some (name, [], rest)
  | ':' :: '-' :: r =>
    match r.dropWhile (· ≠ '\x7d') with
    | _ :: rest => some (name, r.takeWhile (· ≠ '\x7d'), rest)
    | [] => none
  | _ => none

/-- Replaces the references in a value by what `value` says of a name and its default. -/
def expand (value : String → String → String) : Nat → List Char → List Char
  | 0, s => s
  | _, [] => []
  | bound + 1, '$' :: '\x7b' :: r =>
    match readReference? r with
    | some (name, default, rest) =>
      (value (String.ofList name) (String.ofList default)).toList ++ expand value bound rest
    | none => '$' :: expand value bound ('\x7b' :: r)
  | bound + 1, c :: r => c :: expand value bound r

/-- Sets a name in place, or at the end when it is new. -/
def assign (name : String) (value : Option String) : List Binding → List Binding
  | [] => [(name, value)]
  | (key, old) :: rest =>
    if key = name then (key, value) :: rest else (key, old) :: assign name value rest

/-- The value of a referenced variable: that of an earlier binding of the file, else that of the
environment, else the default. A binding without a value counts as empty. -/
def referenced (done : List Binding) (env : List (String × String)) (name default : String) :
    String :=
  match done.lookup name with
  | some value => value.getD ""
  | none => (env.lookup name).getD default

def resolve (env : List (String × String)) : List Binding → List Binding → List Binding
  | done, [] => done
  | done, (name, value) :: rest =>
    let resolved := value.map fun v =>
      String.ofList (expand (referenced done env) (v.length + 1) v.toList)
    resolve env (assign name resolved done) rest

/-- The variables that the text of an environment file sets. -/
def entries (env : List (String × String)) (text : String) : List Binding :=
  let s := normalize text.toList
  resolve env [] (readBindings (s.length + 1) s)

end TcpSessions.EnvFile
