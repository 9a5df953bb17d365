import MarkupQuery.Http.Fetch
import MarkupQuery.Text.Quoted

/-!
# Servers

A server is somewhere that pages are fetched from by their paths. One kind is kept running by
someone else, and is taken to be well; the other kind is a process that was launched, and is asked.
-/

namespace MarkupQuery

/-- The address of a path on a server: one slash stands between the two, however many slashes end
the one and begin the other. -/
def joinUrl (base path : String) : String :=
  let isSlash (c : Char) : Bool := c == '/'
  String.ofList
    ((base.toList.reverse.dropWhile isSlash).reverse ++ '/' :: path.toList.dropWhile isSlash)

/-- A server process that has answered its probe. -/
structure ServerProcess where
  uri : String
  /-- The number of the process. -/
  pid : Nat
  deriving DecidableEq, Repr

def ServerProcess.description (p : ServerProcess) : String :=
  "ServerProcess \x7b uri: " ++ Text.Quoted.encode p.uri ++
    ", pid: Some(" ++ toString p.pid ++ ") \x7d"

/-- Somewhere that pages are fetched from by their paths. -/
inductive Server where
  /-- An address that someone else serves. -/
  | fixed (baseUrl : String)
  | launched (process : ServerProcess)
  deriving DecidableEq, Repr

namespace Server

def baseUrl : Server → String
  | fixed baseUrl => baseUrl
  | launched process => process.uri

def url (s : Server) (path : String) : String := joinUrl s.baseUrl path

/-- Asks whether the server can serve now. Nobody asks one that someone else keeps running. -/
def health (s : Server) (site : Http.Site) : Http.Site × Except Error Unit :=
  match s with
  | fixed _ => (site, .ok ())
  | launched process => Http.head site process.uri

def description (s : Server) : String :=
  "DevServer \x7b base_url: " ++ Text.Quoted.encode s.baseUrl ++ " \x7d"

end Server

end MarkupQuery
