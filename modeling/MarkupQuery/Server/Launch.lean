import MarkupQuery.Server.Basic
import MarkupQuery.Server.Probe
import MarkupQuery.Shell.Run

/-!
# Launching servers

A server is launched as a process of a host, and then probed until it answers. If the process ends
first, or never starts, the launch has failed. The clock of a launch moves by the waits of its
probe.
-/

namespace MarkupQuery

structure LaunchOptions where
  /-- Variables of the process, by name in ascending order. -/
  env : List (String × String)
  /-- The directory that the process runs in, if not the one of its parent. -/
  cwd? : Option String
  /-- How the server is waited for. -/
  probe : ProbeConfig
  deriving DecidableEq, Repr

/-- Gives a name a value, among names in ascending order. -/
def insertVariable (name value : String) : List (String × String) → List (String × String)
  | [] => [(name, value)]
  | (n, v) :: rest =>
    if name < n then (name, value) :: (n, v) :: rest
    else if name = n then (name, value) :: rest
    else (n, v) :: insertVariable name value rest

namespace LaunchOptions

def standard : LaunchOptions := ⟨[], none, .standard⟩

def withEnv (o : LaunchOptions) (name value : String) : LaunchOptions :=
  { o with env := insertVariable name value o.env }

def withCwd (o : LaunchOptions) (cwd : String) : LaunchOptions := { o with cwd? := some cwd }

def withProbe (o : LaunchOptions) (probe : ProbeConfig) : LaunchOptions := { o with probe }

end LaunchOptions

/-- Where processes run. -/
structure Host where
  /-- The absolute names of the directories. -/
  directories : List String
  /-- The directories that hold the programs. -/
  programDirectories : List String
  /-- Where programs are looked for, unless a process is given a `PATH` of its own. -/
  searchPath : String
  /-- The directory that processes run in if none is chosen. -/
  directory : String
  /-- The number of the next process. -/
  pid : Nat

namespace Host

def standard : Host where
  directories := ["/", "/bin", "/boot", "/dev", "/dev/pts", "/dev/shm", "/etc", "/home", "/lib",
    "/media", "/mnt", "/opt", "/proc", "/root", "/run", "/sbin", "/srv", "/sys", "/tmp", "/usr",
    "/usr/bin", "/usr/games", "/usr/include", "/usr/lib", "/usr/local", "/usr/local/bin",
    "/usr/local/etc", "/usr/local/include", "/usr/local/lib", "/usr/local/sbin",
    "/usr/local/share", "/usr/local/src", "/usr/sbin", "/usr/share", "/usr/share/doc", "/usr/src",
    "/var", "/var/cache", "/var/lib", "/var/local", "/var/lock", "/var/log", "/var/mail",
    "/var/opt", "/var/run", "/var/spool", "/var/tmp", "/work"]
  programDirectories := ["/bin", "/usr/bin"]
  searchPath := "/usr/local/sbin:/usr/local/bin:/usr/sbin:/usr/bin:/sbin:/bin"
  directory := "/work"
  pid := 1

def context (h : Host) : Shell.Context := ⟨h.directories, h.pid⟩

/-- What a process of a program does, if there is such a program: a shell, with or without a script,
or one of a few commands. -/
def process? (h : Host) (env : List (String × String)) (directory program : String)
    (arguments : List String) : Option Process :=
  match program, arguments with
  | "sleep", [time] =>
    some (match Shell.seconds? time with
      | some t => ⟨t, .code 0⟩
      | none => ⟨0, .code 1⟩)
  | "sh", "-c" :: script :: _ => some (Shell.Script.process h.context env directory script)
  | "sh", ["-c"] => some ⟨0, .code 2⟩
  | "sh", _ | "true", _ => some ⟨0, .code 0⟩
  | "sleep", _ | "false", _ => some ⟨0, .code 1⟩
  | _, _ => none

/-- The places where a program may be, by the name that it is called by: a name without a slash is
looked for in the directories of the search path, of which an empty one is the current one. -/
def candidates (h : Host) (env : List (String × String)) (program : String) : List String :=
  if program.contains '/' then [program]
  else if program.isEmpty then []
  else (((env.lookup "PATH").getD h.searchPath).splitOn ":").map fun directory =>
    Shell.nameIn (if directory.isEmpty then "." else directory) program

def processAt? (h : Host) (env : List (String × String)) (directory : String)
    (arguments : List String) (place : String) : Option Process :=
  (Shell.absoluteName? directory place).bind fun full =>
    h.programDirectories.findSome? fun home =>
      let start := Shell.nameIn home ""
      if start.toList.isPrefixOf full.toList then
        h.process? env directory (String.ofList (full.toList.drop start.length)) arguments
      else none

def command? (h : Host) (env : List (String × String)) (directory : String) :
    List String → Option Process
  | program :: arguments =>
    (h.candidates env program).findSome? (h.processAt? env directory arguments)
  | [] => none

/-- What the system says of a program that is none, or is not there. -/
def noProgram (h : Host) (directory program : String) : String :=
  if program.contains '/' ∧ (h.context.directory? directory program).isSome then
    "Permission denied (os error 13)"
  else "No such file or directory (os error 2)"

/-- Starts a process. Texts that it is given must not hold the character zero, and the directory
that it runs in must be there. -/
def spawn (h : Host) (command : List String) (o : LaunchOptions) : Except String Process :=
  let texts := command ++ o.cwd?.toList ++ o.env.flatMap fun (name, value) => [name, value]
  if texts.any (·.contains '\x00') then .error "nul byte found in provided data"
  else match h.context.directory? h.directory (o.cwd?.getD ".") with
    | none => .error "No such file or directory (os error 2)"
    | some directory =>
      match h.command? o.env directory command with
      | some p => .ok p
      | none => .error (h.noProgram directory (command.headD ""))

end Host

/-- A process that is being waited for: the site that answers for it, and how long it has run. -/
structure Launching where
  site : Http.Site
  elapsed : Nat

namespace Launching

def ask (uri : String) (l : Launching) : Launching × Except Error Unit :=
  let (site, answer) := Http.head l.site uri
  ({ l with site }, answer)

/-- Lets time pass. At the end of it, it is noticed that the process has ended. -/
def pass (p : Process) (time : Nat) (l : Launching) : Launching × Option Error :=
  let elapsed := l.elapsed + time
  ({ l with elapsed }, if p.lifetime ≤ elapsed then some (.serverExited p.status) else none)

end Launching

namespace ServerProcess

/-- Starts a command as a process and waits until it answers at an address. -/
def launch (h : Host) (command : List String) (uri : String) (o : LaunchOptions)
    (site : Http.Site) : Http.Site × Except Error ServerProcess :=
  match command with
  | [] => (site, .error (.notLaunched .emptyCommand none))
  | program :: _ =>
    match h.spawn command o with
    | .error reason => (site, .error (.notLaunched (.notSpawned program) (some reason)))
    | .ok p =>
      let probed := o.probe.probeFrom uri (Launching.ask uri) (Launching.pass p) 0 ⟨site, 0⟩
      (probed.world.site, probed.answer.map fun _ => ⟨uri, h.pid⟩)

end ServerProcess

end MarkupQuery
