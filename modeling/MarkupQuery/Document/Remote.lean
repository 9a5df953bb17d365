import MarkupQuery.Document
import MarkupQuery.Server.Basic

/-!
# Documents from elsewhere

Pages that are fetched before they are opened. They must begin with the usual declaration.
-/

namespace MarkupQuery.Document

def fromRemote (site : Http.Site) (uri : String) : Http.Site × Except Error Document :=
  let (site, markup) := Http.fetch site uri
  (site, markup.bind (parse .standard))

/-- Opens the page at a path of a server, if the server is well. -/
def fromServer (site : Http.Site) (server : Server) (path : String) :
    Http.Site × Except Error Document :=
  match server.health site with
  | (site, .error e) => (site, .error e)
  | (site, .ok ()) => fromRemote site (server.url path)

end MarkupQuery.Document
