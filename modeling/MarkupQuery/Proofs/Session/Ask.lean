import MarkupQuery.Proofs.Search.Restore
import MarkupQuery.Session

/-!
# Runs of questions

A question is any of the calls that find something on a page: a query with the number of findings
that are wanted, and a property of a view. A view asks its own queries with the source and the
container that it keeps, so they are questions of the first three kinds. Questions can follow each
other in any order, and what one of them answers can be the scope of the next.

No question changes the page (`Session.page_ask`), so no run of questions does
(`Session.page_askAll`).
-/

namespace MarkupQuery

/-- A question to a session. -/
inductive Ask where
  | resolve (source : Nat) (scope : Location) (q : Query) (want : Want)
  | selectFirst (source : Nat) (scope : Location) (q : Query)
  | selectAll (source : Nat) (scope : Location) (q : Query)
  | property (v : View) (name : String)

namespace View

def selectFirst (v : View) (q : Query) : Ask := .selectFirst v.source v.container q

def selectAll (v : View) (q : Query) : Ask := .selectAll v.source v.container q

end View

namespace Session

/-- What a question leaves behind, and its answer. An answer of one finding is a list of one. -/
def ask (s : Session) : Ask → Session × Except Error (List Finding)
  | .resolve source scope q want => s.resolve source scope q want
  | .selectFirst source scope q => (s.selectFirst source scope q).map id (·.map fun f => [f])
  | .selectAll source scope q => s.selectAll source scope q
  | .property v name => (s.property v name).map id (·.map fun f => [f])

def askAll (s : Session) (asks : List Ask) : Session :=
  asks.foldl (fun s a => (s.ask a).1) s

end Session

namespace Page

theorem top_of_cursor? {p : Page} {l : Location} {c : Cursor} (h : p.cursor? l = some c) :
    p.trees[l.tree]? = some c.top := by
  obtain ⟨t, ht, hc⟩ := Option.bind_eq_some_iff.mp h
  rw [ht, Cursor.top_of_cursor? hc]

theorem path_of_cursor? {p : Page} {l : Location} {c : Cursor} (h : p.cursor? l = some c) :
    c.path = l.path := by
  obtain ⟨t, -, hc⟩ := Option.bind_eq_some_iff.mp h
  exact Cursor.path_of_descend? hc

theorem cursor?_path {p : Page} {i : Nat} {c : Cursor} (h : p.trees[i]? = some c.top) :
    p.cursor? ⟨i, c.path⟩ = some c := by
  rw [cursor?, h]
  exact c.cursor?_path

theorem focus_of_cursor? {p : Page} {l : Location} {c : Cursor} (h : p.cursor? l = some c) :
    p.subtree? l = some c.focus := by
  obtain ⟨t, ht, hc⟩ := Option.bind_eq_some_iff.mp h
  rw [subtree?, ht, Option.bind_some, ← Cursor.descend?_focus ⟨t, []⟩ l.path]
  exact congrArg (Option.map Cursor.focus) hc

theorem text_of_cursor? {p : Page} {l : Location} {c : Cursor} (h : p.cursor? l = some c) :
    p.text l = c.focus.text := by
  rw [text, focus_of_cursor? h]
  rfl

theorem attribute?_of_cursor? {p : Page} {l : Location} {c : Cursor} (h : p.cursor? l = some c)
    (name : String) : p.attribute? l name = c.label.attribute? name := by
  rw [attribute?, focus_of_cursor? h]
  rfl

theorem setTree_self {p : Page} {i : Nat} {t : Tree} (h : p.trees[i]? = some t) :
    p.setTree i t = p := by
  obtain ⟨hi, ht⟩ := List.getElem?_eq_some_iff.mp h
  rw [setTree, ← ht, List.set_getElem_self]

end Page

namespace Session

/-- A query leaves the page as it was. -/
theorem page_resolve (s : Session) (source : Nat) (scope : Location) (q : Query) (want : Want) :
    (s.resolve source scope q want).1.page = s.page := by
  unfold resolve
  split
  · rfl
  · split
    · rename_i cursor markers hc hm
      show s.page.setTree scope.tree (Search.find _ cursor want markers).scope.top = s.page
      rw [Search.scope_find]
      exact Page.setTree_self (Page.top_of_cursor? hc)
    · rfl

/-- What a query answers is taken from the page at the places that the search finds. -/
theorem resolve_eq_map {s : Session} {source : Nat} {scope : Location} {q : Query} {l : Locator}
    {cursor : Cursor} {markers : Marker.Source} (hl : Locator.parse? q.locator = some l)
    (hcursor : s.page.cursor? scope = some cursor) (hsource : s.sources[source]? = some markers)
    (want : Want) :
    (s.resolve source scope q want).2 = (Search.find l cursor want markers).answer.map
      fun paths => paths.map fun path =>
        findingAt s.page l q.component? source ⟨scope.tree, path⟩ := by
  have hpage : s.page.setTree scope.tree (Search.find l cursor want markers).scope.top =
      s.page := by
    rw [Search.scope_find]
    exact Page.setTree_self (Page.top_of_cursor? hcursor)
  unfold resolve
  simp only [hl, hcursor, hsource, hpage]

theorem page_selectFirst (s : Session) (source : Nat) (scope : Location) (q : Query) :
    (s.selectFirst source scope q).1.page = s.page :=
  page_resolve s source scope q .first

theorem page_property (s : Session) (v : View) (name : String) :
    (s.property v name).1.page = s.page := by
  unfold property
  split
  · rfl
  · split
    · rfl
    · exact page_selectFirst s v.source v.container _

theorem page_ask (s : Session) (a : Ask) : (s.ask a).1.page = s.page := by
  cases a with
  | resolve source scope q want => exact page_resolve s source scope q want
  | selectFirst source scope q => exact page_selectFirst s source scope q
  | selectAll source scope q => exact page_resolve s source scope q .all
  | property v name => exact page_property s v name

theorem page_askAll (s : Session) (asks : List Ask) : (s.askAll asks).page = s.page := by
  induction asks generalizing s with
  | nil => rfl
  | cons a asks ih =>
      show ((s.ask a).1.askAll asks).page = s.page
      rw [ih, page_ask]

/-- No search changes the tree that it runs on, no query changes the page, and neither does a run of
questions of any length: whatever the scopes, the queries, the numbers of findings wanted and the
sources of ids are, and whether there is an answer or an error. -/
theorem questions_keep_page :
    (∀ (l : Locator) (scope : Cursor) (want : Want) (markers : Marker.Source),
      (Search.find l scope want markers).scope = scope) ∧
    (∀ (s : Session) (source : Nat) (scope : Location) (q : Query) (want : Want),
      (s.resolve source scope q want).1.page = s.page) ∧
    ∀ (s : Session) (asks : List Ask), (s.askAll asks).page = s.page := by
  refine ⟨?_, ?_, ?_⟩
  · intro l scope want markers
    exact Search.scope_find l scope want markers
  · intro s source scope q want
    exact page_resolve s source scope q want
  · intro s asks
    exact page_askAll s asks

end Session

end MarkupQuery
