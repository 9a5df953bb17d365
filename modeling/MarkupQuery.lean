import MarkupQuery.Document.Remote
import MarkupQuery.Proofs.Query.Json
import MarkupQuery.Proofs.Search.DirectChildren
import MarkupQuery.Proofs.Search.Surroundings
import MarkupQuery.Proofs.Session.Independence
import MarkupQuery.Proofs.Session.Outcome
import MarkupQuery.Server.Launch
import MarkupQuery.Proofs.Query.Same
import MarkupQuery.Proofs.Session.Taken
import MarkupQuery.Proofs.Session.Congruence
import MarkupQuery.Proofs.Session.Descent
import MarkupQuery.Proofs.Search.MarkedText
import MarkupQuery.Proofs.Session.First
import MarkupQuery.Proofs.Session.Extraction
import MarkupQuery.Proofs.Session.Declared
import MarkupQuery.Proofs.Document.Doctype
import MarkupQuery.Proofs.Server.Address
import MarkupQuery.Proofs.Server.Counter
