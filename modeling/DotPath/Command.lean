import DotPath.Cache

/-!
The command that reads one value out of a document.  Its arguments are a path, perhaps the document,
and options; its results are an exit code, what it prints, and what it reports line by line.  Files
and the reader of documents are given from outside, each with the words for its failures.
-/

set_option autoImplicit false
set_option relaxedAutoImplicit false

namespace DotPath.Command

structure Arguments where
  path : String
  document : Option String
  file : Option String
  target : Target
  verbosity : Nat

structure Outcome where
  code : Nat
  output : String
  report : List String
  deriving DecidableEq

def targets : List (String × Target) :=
  [ ("node", .node), ("string", .text), ("bool", .scalar .bool),
    ("u8", .scalar (.integer .u8)), ("i8", .scalar (.integer .i8)),
    ("i16", .scalar (.integer .i16)), ("i32", .scalar (.integer .i32)),
    ("i64", .scalar (.integer .i64)), ("u16", .scalar (.integer .u16)),
    ("u32", .scalar (.integer .u32)), ("u64", .scalar (.integer .u64)),
    ("f32", .scalar .float32), ("f64", .scalar .float64), ("decimal", .scalar .decimal),
    ("datetime", .scalar .dateTime), ("datetime-offset", .scalar .zonedDateTime),
    ("array-length", .scalar .arrayLength), ("object", .object (.dictionary .any)),
    ("array", .array .any) ]

inductive ValueOption where
  | file
  | target
  deriving DecidableEq

structure Progress where
  positionals : List String := []
  file : Option String := none
  target : Option Target := none
  verbosity : Nat := 0

namespace Progress

def positional (p : Progress) (argument : String) : Option Progress :=
  if p.positionals.length < 2 then some { p with positionals := p.positionals ++ [argument] }
  else none

/-- Takes the value of an option, which may be given once. -/
def option (p : Progress) : ValueOption → String → Option Progress
  | .file, value =>
      if p.file.isSome ∨ value.isEmpty then none else some { p with file := some value }
  | .target, value =>
      if p.target.isSome then none
      else (targets.lookup value).map fun target => { p with target := some target }

/-- Takes the letters of an argument with a single dash.  An option with a value takes the rest of
the argument, or waits for the next one. -/
def letters : Progress → List Char → Option (Progress × Option ValueOption)
  | p, [] => some (p, none)
  | p, 'v' :: rest => letters { p with verbosity := p.verbosity + 1 } rest
  | p, ['f'] => some (p, some .file)
  | p, 'f' :: '=' :: rest => (p.option .file (String.ofList rest)).map fun next => (next, none)
  | p, 'f' :: rest => (p.option .file (String.ofList rest)).map fun next => (next, none)
  | _, _ => none

def longOptions : List (List Char × ValueOption) :=
  [("file".toList, .file), ("as".toList, .target)]

def long (p : Progress) (text : List Char) : Option (Progress × Option ValueOption) :=
  match Numeral.cut (· = '=') text with
  | (name, none) =>
      if name = "verbose".toList then some ({ p with verbosity := p.verbosity + 1 }, none)
      else (longOptions.lookup name).map fun pending => (p, some pending)
  | (name, some value) => do
      let pending ← longOptions.lookup name
      let next ← p.option pending (String.ofList value)
      pure (next, none)

/-- Takes all arguments.  Behind two dashes alone every argument is positional, and the value of an
option has no dash in front unless it is nothing but one dash. -/
def takeAll : Progress → Option ValueOption → List String → Option Progress
  | p, none, [] => some p
  | _, some _, [] => none
  | p, some pending, argument :: rest => do
      if argument.toList.head? = some '-' ∧ argument ≠ "-" then none
      else
        let next ← p.option pending argument
        takeAll next none rest
  | p, none, argument :: rest =>
      match argument.toList with
      | ['-', '-'] => rest.foldlM positional p
      | '-' :: '-' :: name => do
          let (next, pending) ← p.long name
          takeAll next pending rest
      | '-' :: first :: more => do
          let (next, pending) ← p.letters (first :: more)
          takeAll next pending rest
      | _ => do
          let next ← p.positional argument
          takeAll next none rest

def finish? (p : Progress) : Option Arguments :=
  match p.positionals with
  | [] => none
  | path :: rest =>
      some
        { path
          document := rest.head?
          file := p.file
          target := p.target.getD .node
          verbosity := p.verbosity }

end Progress

def parse? (line : List String) : Option Arguments := do
  let taken ← Progress.takeAll {} none line
  taken.finish?

/-- Holds of the events that a verbosity shows: none, then those of level debug, then all. -/
def shows (verbosity : Nat) (event : Event) : Bool :=
  match event.level with
  | .debug => 1 ≤ verbosity
  | .trace => 2 ≤ verbosity

def logLines (verbosity : Nat) (events : List Event) : List String :=
  (events.filter (shows verbosity)).map Event.line

/-- The document text that the arguments name, or a message.  A file goes before an argument. -/
def documentText (fileText : String → Except String String) (arguments : Arguments) :
    Except String String :=
  match arguments.file, arguments.document with
  | some file, _ =>
      match fileText file with
      | .ok text => .ok text
      | .error cause => .error ("Cannot read " ++ file ++ ": " ++ cause)
  | none, some text => .ok text
  | none, none => .error "Either a JSON argument or --file is required"

/-- The document that the arguments name, or a message, which for a text that is no document goes on
with the words of the reader. -/
def document (fileText : String → Except String String) (reader : String → Except String Json)
    (arguments : Arguments) : Except String Json := do
  let text ← documentText fileText arguments
  match reader text with
  | .ok root => pure root
  | .error cause => throw ("Invalid JSON: " ++ cause)

def execute (fileText : String → Except String String) (reader : String → Except String Json)
    (arguments : Arguments) : Outcome :=
  match document fileText reader arguments with
  | .error message => ⟨1, "", [message]⟩
  | .ok root =>
      let cache := Cache.withCapacity Cache.defaultCapacity
      let reading := (cache.extract root arguments.path arguments.target).2
      let log := logLines arguments.verbosity reading.events
      match reading.outcome with
      | .ok answer => ⟨0, answer.toJson.indented ++ "\n", log⟩
      | .error failure => ⟨1, "", log ++ [failure.message]⟩

/-- Runs the command on a command line.  How lines that are not well formed are explained is left
out, and so are the lines that ask for help or for the version: all of them end as `usage`. -/
def run (fileText : String → Except String String) (reader : String → Except String Json)
    (line : List String) : Outcome :=
  match parse? line with
  | some arguments => execute fileText reader arguments
  | none => ⟨2, "", ["usage"]⟩

end DotPath.Command
