import MarkupQuery.Error
import MarkupQuery.Shell.Directory
import MarkupQuery.Shell.Script

/-!
# Running scripts

What a script comes to: when it ends, and how. Nothing is printed and no files are touched; there
are the directories that the host has, variables, a clock that only sleeping moves, and the shell
itself, which a script may kill.
-/

namespace MarkupQuery

/-- A process, by how long it lasts, in milliseconds, and how it ends. -/
structure Process where
  lifetime : Nat
  status : ExitStatus
  deriving DecidableEq, Repr

end MarkupQuery

namespace MarkupQuery.Shell

/-- What commands find around them. -/
structure Context where
  /-- The absolute names of the directories. -/
  directories : List String
  /-- The number of the process that runs the script. -/
  pid : Nat

def Context.directory? (x : Context) (directory name : String) : Option String :=
  (absoluteName? directory name).filter x.directories.contains

/-- Where a script stands. -/
structure State where
  /-- The variables with their values. -/
  env : List (String × String)
  directory : String
  /-- The time since the start, in milliseconds. -/
  clock : Nat
  /-- The status of the command before. -/
  status : Nat

/-- What a command comes to: the script goes on, or it ends. -/
inductive Outcome where
  | goesOn (s : State)
  | ends (p : Process)

namespace State

def value (x : Context) (s : State) (name : String) : String :=
  match name with
  | "$" => toString x.pid
  | "?" => toString s.status
  | "PWD" => s.directory
  | _ => (s.env.lookup name).getD ""

def assign (s : State) (name value : String) : State :=
  { s with env := (name, value) :: s.env.filter (·.1 != name) }

/-- What a command prints that is used for its text. The only one that prints is `pwd`. -/
def printed (s : State) (command : List Char) : String :=
  match (String.ofList command).splitOn " " |>.filter (!·.isEmpty) with
  | "pwd" :: _ => s.directory
  | _ => ""

end State

/-! ## Words -/

/-- The characters of a value, each with a note on whether it stood in quotes. -/
def marked (quoted : Bool) (value : String) : List (Char × Bool) := value.toList.map (·, quoted)

/-- The characters of a piece. Those of the script itself are not parted, in quotes or not. -/
def expandPiece (x : Context) (s : State) : Piece → List (Char × Bool)
  | .char c _ => [(c, true)]
  | .quotes => []
  | .variable name quoted => marked quoted (s.value x (String.ofList name))
  | .variableOr name other quoted =>
    let value := s.value x (String.ofList name)
    marked quoted (if value.isEmpty then String.ofList other else value)
  | .printed command quoted => marked quoted (s.printed command)

/-- Parts characters at the blanks that stood outside of quotes. -/
def fieldsOf (cs : List (Char × Bool)) : List String :=
  let fields := cs.foldr (fun (c, quoted) fields =>
    if !quoted && c.isWhitespace then [] :: fields
    else match fields with
      | [] => [[c]]
      | field :: rest => (c :: field) :: rest) [[]]
  (fields.filter (!·.isEmpty)).map String.ofList

/-- The words that a word becomes. Quotes keep it together if it is empty. -/
def expand (x : Context) (s : State) (w : Word) : List String :=
  let fields := fieldsOf (w.flatMap (expandPiece x s))
  if fields.isEmpty && w.any (· == .quotes) then [""] else fields

/-- The value that an assignment gives, in one piece. -/
def expandWhole (x : Context) (s : State) (w : Word) : String :=
  String.ofList ((w.flatMap (expandPiece x s)).map (·.1))

/-! ## Tests -/

def compareNumbers (s t : String) (holds : Int → Int → Bool) : Option Bool := do
  return holds (← s.toInt?) (← t.toInt?)

/-- Whether what a test says is so in a directory. There is no answer to a test that makes no
sense. -/
def test? (x : Context) (directory : String) : List String → Option Bool
  | [] => some false
  | ["!", s] => some s.isEmpty
  | [s] => some !s.isEmpty
  | ["-n", s] => some !s.isEmpty
  | ["-z", s] => some s.isEmpty
  | ["-d", s] | ["-e", s] => some (x.directory? directory s).isSome
  | [s, "=", t] => some (s == t)
  | [s, "!=", t] => some (s != t)
  | [s, "-eq", t] => compareNumbers s t fun m n => m == n
  | [s, "-ne", t] => compareNumbers s t fun m n => m != n
  | [s, "-lt", t] => compareNumbers s t fun m n => m < n
  | [s, "-le", t] => compareNumbers s t fun m n => m ≤ n
  | [s, "-gt", t] => compareNumbers s t fun m n => n < m
  | [s, "-ge", t] => compareNumbers s t fun m n => n ≤ m
  | "!" :: rest => (test? x directory rest).map (!·)
  | _ => none

def testStatus (x : Context) (s : State) (arguments : List String) : Nat :=
  match test? x s.directory arguments with
  | some true => 0
  | some false => 1
  | none => 2

/-! ## Signals -/

def signalNumber? (text : String) : Option Nat :=
  match text.toNat? with
  | some n => some n
  | none =>
    let name := if text.startsWith "SIG" then text else "SIG" ++ text
    (ExitStatus.signalNames.idxOf? name).map (· + 1)

/-- The signal that the arguments of `kill` ask for, and the rest of them. Without a word on it, it
is the fifteenth. -/
def killArguments? : List String → Option (Nat × List String)
  | "-s" :: name :: rest => (signalNumber? name).map (·, rest)
  | arg :: rest =>
    match arg.toList with
    | '-' :: name => (signalNumber? (String.ofList name)).map (·, rest)
    | _ => some (15, arg :: rest)
  | [] => none

/-- The signals that end no process. -/
def harmless : List Nat := [0, 17, 18, 23, 28]

/-! ## Commands -/

def goOn (s : State) (status : Nat) : Outcome := .goesOn { s with status }

def exit (s : State) (status : Nat) : Outcome := .ends ⟨s.clock, .code (status % 256)⟩

def seconds? (text : String) : Option Nat :=
  match text.splitOn "." with
  | [whole] => whole.toNat?.map (1000 * ·)
  | [whole, part] =>
    let digits := String.ofList ((part ++ "000").toList.take 3)
    match (if whole.isEmpty then some 0 else whole.toNat?), digits.toNat? with
    | some w, some p => some (1000 * w + p)
    | _, _ => none
  | _ => none

def runCommand (x : Context) (s : State) (name : String) (arguments : List String) : Outcome :=
  match name, arguments with
  | "exit", [] => exit s s.status
  | "exit", code :: _ =>
    match code.toNat? with
    | some n => exit s n
    | none => exit s 2
  | ":", _ | "true", _ | "echo", _ | "printf", _ | "pwd", _ | "export", _ | "set", _ => goOn s 0
  | "false", _ => goOn s 1
  | "test", _ => goOn s (testStatus x s arguments)
  | "[", _ =>
    if arguments.getLast? = some "]" then goOn s (testStatus x s arguments.dropLast) else goOn s 2
  | "kill", _ =>
    match killArguments? arguments with
    | some (signal, [target]) =>
      if target != toString x.pid then goOn s 1
      else if harmless.contains signal then goOn s 0
      else .ends ⟨s.clock, .signal signal false⟩
    | _ => goOn s 2
  | "cd", [directory] =>
    match x.directory? s.directory directory with
    | some directory => goOn { s with directory } 0
    | none => goOn s 2
  | "sleep", [time] =>
    match seconds? time with
    | some t => goOn { s with clock := s.clock + t } 0
    | none => goOn s 1
  | _, _ => goOn s 127

def assignment? (w : Word) : Option (String × Word) :=
  let isNamePiece : Piece → Bool
    | .char c false => Lexing.isNameChar c
    | _ => false
  match w.takeWhile isNamePiece, w.dropWhile isNamePiece with
  | name@(.char c _ :: _), .char '=' false :: value =>
    if c.isDigit then none else (Script.bareText? name).map (·, value)
  | _, _ => none

/-- Runs the words of a command: the assignments in front of it, and the command. Assignments last
if there is no command, or if the command is one to keep them. -/
def runWords (x : Context) (s : State) : List Word → Outcome
  | [] => goOn s 0
  | w :: rest =>
    match assignment? w with
    | some (name, value) => runWords x (s.assign name (expandWhole x s value)) rest
    | none =>
      match expand x s w ++ rest.flatMap (expand x s) with
      | [] => goOn s 0
      | ["export", argument] =>
        match argument.splitOn "=" with
        | name :: value@(_ :: _) => goOn (s.assign name ("=".intercalate value)) 0
        | _ => goOn s 0
      | "exec" :: name :: arguments =>
        match runCommand x s name arguments with
        | .goesOn s => exit s s.status
        | ended => ended
      | name :: arguments => runCommand x s name arguments

namespace Script

def run (x : Context) : Script → State → Outcome
  | nothing, s => goOn s 0
  | command words, s => runWords x s words
  | chain first link second, s =>
    match first.run x s with
    | .ends p => .ends p
    | .goesOn t =>
      match link with
      | .always => second.run x t
      | .success => if t.status = 0 then second.run x t else .goesOn t
      | .failure => if t.status = 0 then .goesOn t else second.run x t
  | negated c, s =>
    match c.run x s with
    | .ends p => .ends p
    | .goesOn t => goOn t (if t.status = 0 then 1 else 0)
  | choice condition yes no, s =>
    match condition.run x s with
    | .ends p => .ends p
    | .goesOn t => if t.status = 0 then yes.run x t else no.run x t
  | nested c, s =>
    match c.run x s with
    | .goesOn t => .goesOn { s with clock := t.clock, status := t.status }
    | .ends ⟨time, .code status⟩ => .goesOn { s with clock := time, status }
    | .ends p => .ends p

/-- Runs a script as a process. One that makes no sense ends at once, with a status of its own. -/
def process (x : Context) (env : List (String × String)) (directory text : String) :
    Process :=
  match ofText? text.toList with
  | none => ⟨0, .code 2⟩
  | some script =>
    match script.run x ⟨env, directory, 0, 0⟩ with
    | .ends p => p
    | .goesOn s => ⟨s.clock, .code s.status⟩

end Script

end MarkupQuery.Shell
