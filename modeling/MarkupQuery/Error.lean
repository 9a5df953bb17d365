/-!
# Errors

Everything that can go wrong, by its cause, and the message for each. An error about a selector or
a property always carries the text that was at fault.
-/

namespace MarkupQuery

/-- What a search was after when it found nothing. -/
inductive Sought where
  | node
  | nodes
  | childNodes
  deriving DecidableEq, Repr

def Sought.text : Sought → String
  | node => "node"
  | nodes => "nodes"
  | childNodes => "child nodes"

inductive MarkupFault where
  /-- A page that does not begin with the declaration it must begin with. -/
  | doctypeMissing (expected : String)
  /-- A fragment that begins with a declaration, which only pages have. -/
  | doctypePresent
  | other (reason : String)
  deriving DecidableEq, Repr

def MarkupFault.text : MarkupFault → String
  | doctypeMissing expected =>
    "missing or invalid document-type declaration; expected `" ++ expected ++ "`"
  | doctypePresent => "document fragment must not include document-type declaration"
  | other reason => reason

/-- Why a server process could not be started. -/
inductive LaunchFault where
  | emptyCommand
  | notSpawned (program : String)
  | other (reason : String)
  deriving DecidableEq, Repr

def LaunchFault.text : LaunchFault → String
  | emptyCommand => "empty command"
  | notSpawned program => "failed to spawn `" ++ program ++ "`"
  | other reason => reason

/-- How a process ended: by itself with a status, or by a signal. -/
inductive ExitStatus where
  | code (n : Nat)
  | signal (number : Nat) (coreDumped : Bool)
  deriving DecidableEq, Repr

namespace ExitStatus

def signalNames : List String :=
  ["SIGHUP", "SIGINT", "SIGQUIT", "SIGILL", "SIGTRAP", "SIGABRT", "SIGBUS", "SIGFPE", "SIGKILL",
    "SIGUSR1", "SIGSEGV", "SIGUSR2", "SIGPIPE", "SIGALRM", "SIGTERM", "SIGSTKFLT", "SIGCHLD",
    "SIGCONT", "SIGSTOP", "SIGTSTP", "SIGTTIN", "SIGTTOU", "SIGURG", "SIGXCPU", "SIGXFSZ",
    "SIGVTALRM", "SIGPROF", "SIGWINCH", "SIGIO", "SIGPWR", "SIGSYS"]

def signalName? : Nat → Option String
  | 0 => none
  | n + 1 => signalNames[n]?

def text : ExitStatus → String
  | code n => "exit status: " ++ toString n
  | signal n coreDumped =>
    "signal: " ++ toString n ++ ((signalName? n).map (" (" ++ · ++ ")")).getD "" ++
      if coreDumped then " (core dumped)" else ""

end ExitStatus

/-- A failure below the level of a response. -/
inductive TransportFault where
  /-- No connection to the server could be made. -/
  | refused
  /-- Anything else: a connection cut off, an address without a host, too many redirections. -/
  | broken
  deriving DecidableEq, Repr

/-- Everything that can go wrong. -/
inductive Error where
  | badMarkup (fault : MarkupFault)
  | badSelector (selector : String)
  | noMatch (selector : String) (sought : Sought)
  | unknownProperty (name : String)
  | unknownScheme (uri : String)
  | badStatus (status : Nat) (uri : String)
  | unreachable (uri : String) (attempts : Nat)
  | notLaunched (fault : LaunchFault) (cause? : Option String)
  | serverExited (status : ExitStatus)
  | transport (fault : TransportFault)
  | io (reason : String)
  deriving DecidableEq, Repr

namespace Error

/-- The message for an error. The wording of a transport fault is not fixed, so it has none. -/
def message? : Error → Option String
  | badMarkup fault => some fault.text
  | badSelector selector => some ("invalid selector `" ++ selector ++ "`")
  | noMatch selector sought => some ("no matching " ++ sought.text ++ " for `" ++ selector ++ "`")
  | unknownProperty name => some ("invalid component property `" ++ name ++ "`")
  | unknownScheme uri => some ("unrecognized URI: " ++ uri)
  | badStatus status uri => some ("unexpected HTTP response: " ++ toString status ++ " " ++ uri)
  | unreachable uri attempts =>
    some ("timeout while probing " ++ uri ++ " after " ++ toString attempts ++ " attempts")
  | notLaunched fault _ => some ("failed to launch server: " ++ fault.text)
  | serverExited status => some ("child process died unexpectedly (" ++ status.text ++ ")")
  | transport _ => none
  | io reason => some ("I/O error: " ++ reason)

/-- Whether the error says that a search found nothing, which a caller may take for an answer. -/
def isNoMatch : Error → Bool
  | noMatch _ _ => true
  | _ => false

def cause? : Error → Option String
  | notLaunched _ cause? => cause?
  | io reason => some reason
  | _ => none

end Error

end MarkupQuery
