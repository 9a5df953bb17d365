import MarkupQuery.Proofs.Search.First
import MarkupQuery.Proofs.Session.History

/-!
# Questions of a view

A view asks for the first finding of a query, for all of them, or for a property that it declares
(`View.Asks`). Each of these is a query of its container, with the source of ids that it keeps
(`View.Asks.ask_eq_resolve`). A view that a query finds is of the component that was asked for and
keeps the source of the query (`Session.view_of_mem_resolve`).
-/

namespace MarkupQuery

/-- The query that a question asks of its scope. The container of a view is known without asking,
and so is that a property is not declared. -/
def Ask.query? : Ask → Option Query
  | resolve _ _ q _ | selectFirst _ _ q | selectAll _ _ q => some q
  | property v name => if name = containerKey then none else v.component.property? name

namespace Session

/-- Findings are taken from the page at places that a search found. -/
theorem exists_of_resolve_eq_ok {s : Session} {source : Nat} {scope : Location} {q : Query}
    {want : Want} {found : List Finding} (h : (s.resolve source scope q want).2 = .ok found) :
    ∃ l cursor markers paths, Locator.parse? q.locator = some l ∧
      s.page.cursor? scope = some cursor ∧ s.sources[source]? = some markers ∧
      (Search.find l cursor want markers).answer = .ok paths ∧
      found = paths.map fun path => findingAt s.page l q.component? source ⟨scope.tree, path⟩ := by
  cases hl : Locator.parse? q.locator with
  | none =>
      unfold resolve at h
      rw [hl] at h
      cases h
  | some l =>
      cases hcursor : s.page.cursor? scope with
      | none =>
          unfold resolve at h
          simp only [hl, hcursor] at h
          cases h
      | some cursor =>
          cases hsource : s.sources[source]? with
          | none =>
              unfold resolve at h
              simp only [hl, hcursor, hsource] at h
              cases h
          | some markers =>
              rw [resolve_eq_map hl hcursor hsource] at h
              obtain ⟨paths, hfind, rfl⟩ := map_eq_ok_iff.mp h
              exact ⟨l, cursor, markers, paths, rfl, rfl, rfl, hfind, rfl⟩

/-- A query for the first finding answers with one finding or fails. -/
theorem exists_of_resolve_first {s : Session} {source : Nat} {scope : Location} {q : Query}
    {found : List Finding} (h : (s.resolve source scope q .first).2 = .ok found) :
    ∃ f, found = [f] := by
  obtain ⟨l, cursor, markers, paths, -, -, -, hfind, rfl⟩ := exists_of_resolve_eq_ok h
  obtain ⟨p, rfl⟩ := Search.exists_of_find_first hfind
  exact ⟨_, rfl⟩

/-- To ask for the first finding is to ask a query for it: an answer without findings does not
come. -/
theorem ask_selectFirst (s : Session) (source : Nat) (scope : Location) (q : Query) :
    s.ask (.selectFirst source scope q) = s.resolve source scope q .first := by
  refine Prod.ext rfl ?_
  show ((s.resolve source scope q .first).2.bind _).map _ = (s.resolve source scope q .first).2
  cases h : (s.resolve source scope q .first).2 with
  | error e => rfl
  | ok found =>
      obtain ⟨f, rfl⟩ := exists_of_resolve_first h
      rfl

theorem property_containerKey (s : Session) (v : View) :
    s.property v containerKey = (s, .ok (.node v.container)) :=
  if_pos rfl

theorem property_of_none {s : Session} {v : View} {name : String} (hname : name ≠ containerKey)
    (h : v.component.property? name = none) :
    s.property v name = (s, .error (.unknownProperty name)) := by
  rw [property, if_neg hname, h]

theorem property_of_some {s : Session} {v : View} {name : String} {q : Query}
    (hname : name ≠ containerKey) (h : v.component.property? name = some q) :
    s.property v name = s.selectFirst v.source v.container q := by
  rw [property, if_neg hname, h]

/-- A question asks a query of its scope, or its answer is known beforehand: the container of a view,
or that a property is not declared. -/
theorem ask_cases (a : Ask) :
    (∃ q want, a.query? = some q ∧ ∀ s : Session, s.ask a = s.resolve a.source a.scope q want) ∨
    (a.query? = none ∧ ∃ answer : Except Error (List Finding), (∀ s : Session, s.ask a = (s, answer)) ∧
      ∀ found, answer = .ok found → found = [.node a.scope]) := by
  cases a with
  | resolve source scope q want => exact .inl ⟨q, want, rfl, fun s => rfl⟩
  | selectFirst source scope q => exact .inl ⟨q, .first, rfl, fun s => s.ask_selectFirst _ _ _⟩
  | selectAll source scope q => exact .inl ⟨q, .all, rfl, fun s => rfl⟩
  | property v name =>
      by_cases hname : name = containerKey
      · refine .inr ⟨if_pos hname, .ok [.node v.container], fun s => ?_, ?_⟩
        · rw [ask, hname, property_containerKey]
          rfl
        · rintro found ⟨⟩
          rfl
      · cases hq : v.component.property? name with
        | none =>
            refine .inr ⟨by rw [Ask.query?, if_neg hname, hq], .error (.unknownProperty name),
              fun s => ?_, ?_⟩
            · rw [ask, property_of_none hname hq]
              rfl
            · rintro found ⟨⟩
        | some q =>
            refine .inl ⟨q, .first, by rw [Ask.query?, if_neg hname, hq], fun s => ?_⟩
            rw [ask, property_of_some hname hq]
            exact s.ask_selectFirst v.source v.container q

end Session

/-- A view asks a query: for its first finding, for all of them, or as a property of its
component. -/
inductive View.Asks (v : View) : Ask → Query → Prop where
  | first (q : Query) : v.Asks (v.selectFirst q) q
  | all (q : Query) : v.Asks (v.selectAll q) q
  | property {name : String} {q : Query} (hname : name ≠ containerKey)
      (hq : v.component.property? name = some q) : v.Asks (.property v name) q

namespace View.Asks

variable {v : View} {a : Ask} {q : Query}

theorem source_eq (h : v.Asks a q) : a.source = v.source := by
  cases h <;> rfl

theorem scope_eq (h : v.Asks a q) : a.scope = v.container := by
  cases h <;> rfl

theorem query?_eq (h : v.Asks a q) : a.query? = some q := by
  cases h with
  | first q => rfl
  | all q => rfl
  | property hname hq => rw [Ask.query?, if_neg hname, hq]

/-- What a view asks is a query of its container. -/
theorem ask_eq_resolve (h : v.Asks a q) :
    ∃ want, ∀ s : Session, s.ask a = s.resolve v.source v.container q want := by
  rcases Session.ask_cases a with ⟨q', want, hq', hask⟩ | ⟨hnone, -⟩
  · obtain rfl := Option.some.inj (h.query?_eq.symm.trans hq')
    exact ⟨want, by simpa only [h.source_eq, h.scope_eq] using hask⟩
  · rw [h.query?_eq] at hnone
    cases hnone

end View.Asks

namespace Session

/-- A locator takes a view of a node if it has no suffix and a component was asked for. -/
theorem findingAt_eq_view {p : Page} {l : Locator} {component? : Option Component} {source : Nat}
    {location : Location} {v : View}
    (h : findingAt p l component? source location = .view v) :
    l.extraction? = none ∧ ∃ c, component? = some c ∧ v = ⟨location, c, source⟩ := by
  unfold findingAt at h
  split at h
  · cases h
  · cases h
  · rename_i c hnone
    cases h
    exact ⟨hnone, c, rfl, rfl⟩
  · cases h

theorem eq_component_of_component? {q : Query} {c : Component} (h : q.component? = some c) :
    q = .component c := by
  cases q with
  | raw s => cases h
  | component d =>
      cases h
      rfl

/-- A view that a query finds is of the component that was asked for, in the tree of the scope, and
keeps the source of the query. -/
theorem view_of_mem_resolve {s : Session} {source : Nat} {scope : Location} {q : Query}
    {want : Want} {found : List Finding} (h : (s.resolve source scope q want).2 = .ok found)
    {v : View} (hv : .view v ∈ found) :
    ∃ c path, q = .component c ∧ v = ⟨⟨scope.tree, path⟩, c, source⟩ := by
  obtain ⟨l, cursor, markers, paths, -, -, -, -, rfl⟩ := exists_of_resolve_eq_ok h
  obtain ⟨path, -, hpath⟩ := List.mem_map.mp hv
  obtain ⟨-, c, hc, rfl⟩ := findingAt_eq_view hpath
  exact ⟨c, path, eq_component_of_component? hc, rfl⟩

/-- A view keeps the source of the question that found it. -/
theorem source_of_mem_ask {s : Session} {a : Ask} {found : List Finding}
    (h : (s.ask a).2 = .ok found) {v : View} (hv : .view v ∈ found) : v.source = a.source := by
  rcases ask_cases a with ⟨q, want, -, hask⟩ | ⟨-, answer, hask, hnode⟩
  · rw [hask] at h
    obtain ⟨c, path, -, rfl⟩ := view_of_mem_resolve h hv
    rfl
  · rw [hask] at h
    rw [hnode found h] at hv
    cases List.mem_singleton.mp hv

end Session

end MarkupQuery
