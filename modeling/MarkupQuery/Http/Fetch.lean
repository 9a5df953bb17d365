import MarkupQuery.Http.Site
import MarkupQuery.Text.Utf8

/-!
# Fetching

Asking for what an address names. Only addresses of the two schemes are asked for at all, and only a
response of success is an answer; any other status is an error with the address that was asked for,
wherever redirections led.
-/

namespace MarkupQuery.Http

def hasKnownScheme (uri : String) : Bool := (Uri.scheme? uri.toList).isSome

def request (site : Site) (m : Method) (uri : String) : Site × Except Error Response :=
  if hasKnownScheme uri then
    match Uri.parse? uri with
    | none => (site, .error (.transport .broken))
    | some u =>
      match site.send m u with
      | (site, .error fault) => (site, .error (.transport fault))
      | (site, .ok r) =>
        if r.isSuccess then (site, .ok r) else (site, .error (.badStatus r.status uri))
  else (site, .error (.unknownScheme uri))

def fetch (site : Site) (uri : String) : Site × Except Error String :=
  let (site, answer) := request site .get uri
  (site, answer.map fun r => Text.Utf8.decode r.body)

/-- Asks whether there is something at an address. -/
def head (site : Site) (uri : String) : Site × Except Error Unit :=
  let (site, answer) := request site .head uri
  (site, answer.map fun _ => ())

end MarkupQuery.Http
