import Mathlib
import MarkupQuery.Proofs.Search.Counted
import MarkupQuery.Proofs.Session.Views

/-!
# Which questions take an id

A query takes an id from its source when it marks its scope: its locator is child-scoped, the
selector can be read, and the scope is an element below another node (`Session.Marks`). It takes
exactly one, whatever it answers, and nothing else takes any. So after a run a source has handed out
its next ids in order, one for each question of the run that went through it and marked its scope at
that moment (`Session.sources_run`).

A view goes on using the source that it was reached through (`Session.ReachedIn`).
-/

namespace MarkupQuery

namespace Search

/-- A search takes one id if it marks its scope, and none otherwise. -/
theorem markers_find (l : Locator) (scope : Cursor) (want : Want) (markers : Marker.Source) :
    (find l scope want markers).markers =
      if l.childScoped = true ∧ (Css.SelectorList.ofText? l.css).isSome = true ∧
          canMark scope = true then
        markers.next.2
      else markers := by
  unfold find belowChildren
  cases l.childScoped with
  | false =>
      cases l.isSelf <;> simp
  | true =>
      cases Css.SelectorList.ofText? l.css with
      | none => simp
      | some entries => cases canMark scope <;> simp

end Search

namespace Session

/-- Whether a query marks its scope: its locator is child-scoped and has a selector that can be
read, and the scope is an element below another node. -/
def Marks (s : Session) (scope : Location) (q : Query) : Prop :=
  ∃ l cursor, Locator.parse? q.locator = some l ∧ l.childScoped = true ∧
    (Css.SelectorList.ofText? l.css).isSome = true ∧ s.page.cursor? scope = some cursor ∧
    cursor.isElement = true ∧ cursor.parent?.isSome = true

instance (s : Session) (scope : Location) (q : Query) : Decidable (s.Marks scope q) :=
  decidable_of_iff (((Locator.parse? q.locator).any fun l =>
      (s.page.cursor? scope).any fun cursor => l.childScoped &&
        (Css.SelectorList.ofText? l.css).isSome && cursor.isElement && cursor.parent?.isSome) =
      true) (by
    simp only [Option.any_eq_true, Bool.and_eq_true, Marks]
    constructor
    · rintro ⟨l, hl, cursor, hcursor, ⟨⟨hchild, hread⟩, hel⟩, hp⟩
      exact ⟨l, cursor, hl, hchild, hread, hcursor, hel, hp⟩
    · rintro ⟨l, cursor, hl, hchild, hread, hcursor, hel, hp⟩
      exact ⟨l, hl, cursor, hcursor, ⟨⟨hchild, hread⟩, hel⟩, hp⟩)

/-- Whether a question takes an id: it asks a query that marks its scope. -/
def Takes (s : Session) (a : Ask) : Prop := ∃ q ∈ a.query?, s.Marks a.scope q

instance (s : Session) (a : Ask) : Decidable (s.Takes a) :=
  inferInstanceAs (Decidable (∃ q ∈ a.query?, s.Marks a.scope q))

/-! ### One step -/

variable {s : Session} {i : Nat} {m : Marker.Source}

/-- Whether a query marks its scope, once its locator has been read and the scope found. -/
theorem marks_iff {scope : Location} {q : Query} {l : Locator} {cursor : Cursor}
    (hl : Locator.parse? q.locator = some l) (hcursor : s.page.cursor? scope = some cursor) :
    s.Marks scope q ↔ l.childScoped = true ∧ (Css.SelectorList.ofText? l.css).isSome = true ∧
      Search.canMark cursor = true := by
  rw [Search.canMark, Bool.and_eq_true]
  constructor
  · rintro ⟨l', cursor', hl', hchild, hread, hcursor', hel, hp⟩
    obtain rfl := Option.some.inj (hl.symm.trans hl')
    obtain rfl := Option.some.inj (hcursor.symm.trans hcursor')
    exact ⟨hchild, hread, hel, hp⟩
  · rintro ⟨hchild, hread, hel, hp⟩
    exact ⟨l, cursor, hl, hchild, hread, hcursor, hel, hp⟩

/-- A query takes one id from its own source if it marks its scope; no other source changes. -/
theorem sources_resolve (h : s.sources[i]? = some m) (source : Nat) (scope : Location) (q : Query)
    (want : Want) :
    (s.resolve source scope q want).1.sources[i]? =
      some (if source = i ∧ s.Marks scope q then m.next.2 else m) := by
  -- where the session stays as it is, the query does not mark anything
  have hstay (hresolve : (s.resolve source scope q want).1 = s)
      (hnot : ¬ (source = i ∧ s.Marks scope q)) :
      (s.resolve source scope q want).1.sources[i]? =
        some (if source = i ∧ s.Marks scope q then m.next.2 else m) := by
    rw [hresolve, if_neg hnot, h]
  cases hl : Locator.parse? q.locator with
  | none =>
      refine hstay (by simp only [resolve, hl]) ?_
      rintro ⟨-, l, cursor, hl', -⟩
      rw [hl] at hl'
      cases hl'
  | some l =>
      cases hcursor : s.page.cursor? scope with
      | none =>
          refine hstay (by simp only [resolve, hl, hcursor]) ?_
          rintro ⟨-, l, cursor, -, -, -, hcursor', -⟩
          rw [hcursor] at hcursor'
          cases hcursor'
      | some cursor =>
          cases hsource : s.sources[source]? with
          | none =>
              refine hstay (by simp only [resolve, hl, hcursor, hsource]) ?_
              rintro ⟨rfl, -⟩
              rw [hsource] at h
              cases h
          | some markers =>
              have hresolve : (s.resolve source scope q want).1.sources =
                  s.sources.set source (Search.find l cursor want markers).markers := by
                simp only [resolve, hl, hcursor, hsource]
              simp only [hresolve, List.getElem?_set, marks_iff hl hcursor]
              by_cases hi : source = i
              · subst hi
                obtain rfl := Option.some.inj (h.symm.trans hsource)
                have hlt := (List.getElem?_eq_some_iff.mp h).1
                rw [if_pos rfl, if_pos hlt, Search.markers_find]
                simp only [true_and]
              · rw [if_neg hi, if_neg fun hand => hi hand.1, h]

/-- A question takes one id from its own source if it marks its scope; no other source changes. -/
theorem sources_ask (h : s.sources[i]? = some m) (a : Ask) :
    (s.ask a).1.sources[i]? = some (if a.source = i ∧ s.Takes a then m.next.2 else m) := by
  rcases ask_cases a with ⟨q, want, hq, hask⟩ | ⟨hnone, answer, hask, -⟩
  · have htakes : s.Takes a ↔ s.Marks a.scope q := by simp [Takes, hq]
    simp only [hask, sources_resolve h, htakes]
  · have hnot : ¬ s.Takes a := by simp [Takes, hnone]
    rw [hask, if_neg fun hand => hnot hand.2, h]

/-- Breaking up trees keeps what breaking up one tree keeps. -/
theorem foldl_breakUp {α : Type} {kept : Session → α}
    (h : ∀ (s : Session) (i : Nat), kept (s.breakUp i) = kept s) (s : Session) (is : List Nat) :
    kept (is.foldl breakUp s) = kept s := by
  induction is generalizing s with
  | nil => rfl
  | cons i is ih => exact (ih (s.breakUp i)).trans (h s i)

/-- The questions of a run, each with the session that it is asked in. -/
def asked (s : Session) : List Step → List (Session × Ask)
  | [] => []
  | .ask a :: steps => (s, a) :: (s.ask a).1.asked steps
  | st :: steps => (s.step st).asked steps

/-- Steps other than questions take no ids. -/
theorem sources_step (h : s.sources[i]? = some m) (st : Step) (hst : ∀ a, st ≠ .ask a) :
    (s.step st).sources[i]? = some m := by
  cases st with
  | ask a => exact absurd rfl (hst a)
  | edit e => exact h
  | withMarkers markers =>
      have hlt := (List.getElem?_eq_some_iff.mp h).1
      exact (List.getElem?_append_left hlt).trans h
  | record found =>
      have hsources : (s.record found).sources = s.sources :=
        foldl_breakUp (fun _ _ => rfl) { s with findings := s.findings ++ [found] } _
      rw [step, hsources, h]

/-- The questions of a run that go through a source and take an id. -/
def takings (s : Session) (i : Nat) (steps : List Step) : List (Session × Ask) :=
  (s.asked steps).filter fun x => decide (x.2.source = i ∧ x.1.Takes x.2)

/-- After a run a source has handed out its next ids, one for each question of the run that went
through it and marked its scope at that moment. -/
theorem sources_run (h : s.sources[i]? = some m) (steps : List Step) :
    (s.run steps).sources[i]? = some (m.after (s.takings i steps).length) := by
  induction steps generalizing s m with
  | nil => exact h
  | cons st steps ih =>
      have hother (hst : ∀ a, st ≠ .ask a)
          (hasked : s.asked (st :: steps) = (s.step st).asked steps) :
          (s.run (st :: steps)).sources[i]? =
            some (m.after (s.takings i (st :: steps)).length) := by
        rw [takings, hasked]
        exact ih (sources_step h st hst)
      cases st with
      | edit e => exact hother (by simp) rfl
      | withMarkers markers => exact hother (by simp) rfl
      | record found => exact hother (by simp) rfl
      | ask a =>
          have hrun := ih (s := (s.ask a).1) (sources_ask h a)
          show ((s.ask a).1.run steps).sources[i]? = _
          rw [hrun, takings, takings, asked, List.filter_cons]
          by_cases htakes : a.source = i ∧ s.Takes a
          · simp [htakes, Marker.Source.after]
          · simp [htakes]

theorem current_resolve (s : Session) (source : Nat) (scope : Location) (q : Query) (want : Want) :
    (s.resolve source scope q want).1.current = s.current := by
  unfold resolve
  split
  · rfl
  · split <;> rfl

theorem current_ask (s : Session) (a : Ask) : (s.ask a).1.current = s.current := by
  rcases ask_cases a with ⟨q, want, -, hask⟩ | ⟨-, answer, hask, -⟩
  · rw [hask, current_resolve]
  · rw [hask]

/-- The questions of a session itself go through the source that was given to it last. -/
theorem current_step (s : Session) (st : Step) (hst : ∀ m, st ≠ .withMarkers m) :
    (s.step st).current = s.current := by
  cases st with
  | ask a => exact current_ask s a
  | edit e => rfl
  | withMarkers m => exact absurd rfl (hst m)
  | record found =>
      exact foldl_breakUp (fun _ _ => rfl) { s with findings := s.findings ++ [found] } _

/-! ### Views -/

/-- A view that is reached in a run through a source: a question that goes through the source finds
it, or a question of a view that was reached so. In between there may be steps of any kind, and a
view may be moved along with its container. -/
inductive ReachedIn (s : Session) (i : Nat) : List Step → View → Prop where
  | found {steps : List Step} {a : Ask} {found : List Finding} {v : View} (hsource : a.source = i)
      (hanswer : ((s.run steps).ask a).2 = .ok found) (hv : .view v ∈ found) :
      ReachedIn s i (steps ++ [.ask a]) v
  | later {steps : List Step} {v : View} (h : ReachedIn s i steps v) (more : List Step)
      (move : Location → Location) :
      ReachedIn s i (steps ++ more) { v with container := move v.container }
  | asked {steps : List Step} {v w : View} {a : Ask} {q : Query} {found : List Finding}
      (h : ReachedIn s i steps v) (ha : v.Asks a q)
      (hanswer : ((s.run steps).ask a).2 = .ok found) (hw : .view w ∈ found) :
      ReachedIn s i (steps ++ [.ask a]) w

/-- A view that is reached through a source keeps it. -/
theorem ReachedIn.source_eq {steps : List Step} {v : View} (h : s.ReachedIn i steps v) :
    v.source = i := by
  induction h with
  | found hsource hanswer hv => exact (source_of_mem_ask hanswer hv).trans hsource
  | later _ _ _ ih => exact ih
  | asked _ ha hanswer hw ih => exact ((source_of_mem_ask hanswer hw).trans ha.source_eq).trans ih

/-- Which ids a source has handed out after a run: the next ones in order, exactly one for each
question of the run that went through it and marked its scope at that moment, whatever was answered.
A source that is given to a session is the one that its own questions go through until another one
is given; and a view that is reached through a source asks its questions through that source,
whatever happens in between. -/
theorem one_id_for_each_marking :
    (∀ (s : Session) (steps : List Step) (i : Nat) (m : Marker.Source), s.sources[i]? = some m →
      (s.run steps).sources[i]? = some (m.after (s.takings i steps).length) ∧
      (m.after (s.takings i steps).length).history =
        m.history ++ m.upcoming (s.takings i steps).length ∧
      (m.upcoming (s.takings i steps).length).length = (s.takings i steps).length) ∧
    (∀ (s : Session) (m : Marker.Source),
      (s.withMarkers m).sources[(s.withMarkers m).current]? = some m) ∧
    (∀ (s : Session) (st : Step), (∀ m, st ≠ .withMarkers m) → (s.step st).current = s.current) ∧
    ∀ (s : Session) (i : Nat) (steps : List Step) (v : View), s.ReachedIn i steps v →
      v.source = i ∧ ∀ a q, v.Asks a q → a.source = i := by
  refine ⟨?_, ?_, ?_, ?_⟩
  · intro s steps i m h
    exact ⟨sources_run h steps, m.history_after _, m.length_upcoming _⟩
  · intro s m
    exact List.getElem?_concat_length
  · intro s st hst
    exact current_step s st hst
  · intro s i steps v h
    exact ⟨h.source_eq, fun a q ha => ha.source_eq.trans h.source_eq⟩

def findList : Ask := .selectFirst 0 .root (.component (.new "ul"))

def foundList : View := ⟨⟨0, [0]⟩, .new "ul", 0⟩

/-- Asks the list for paragraphs, gives the session a new source of ids and asks for the items. -/
def askTwice : List Step :=
  [.ask (foundList.selectAll (.raw "> p")), .withMarkers (.listed ["a"]),
    .ask (foundList.selectAll (.raw "> li"))]

/-- The list has no paragraphs, but looking for them takes an id as well as looking for the items
does; the view goes on using the first source. -/
theorem one_id_for_each_marking_items :
    (((new Search.itemList.top .counted).run (.ask findList :: askTwice)).sources[0]?).map
        Marker.Source.history = some ["0", "1"] ∧
      foundList.source = 0 ∧ (foundList.selectAll (.raw "> li")).source = 0 := by
  obtain ⟨hids, -, -, hviews⟩ := one_id_for_each_marking
  have hfound : ((new Search.itemList.top .counted).ask findList).2 = .ok [.view foundList] := by
    cbv
  have htakings : ((new Search.itemList.top .counted).takings 0 (.ask findList :: askTwice)).length =
      2 := by
    cbv
  obtain ⟨hsource, hhistory, -⟩ :=
    hids (new Search.itemList.top .counted) (.ask findList :: askTwice) 0 .counted rfl
  have hreached : (new Search.itemList.top .counted).ReachedIn 0 ([] ++ [.ask findList])
      foundList := .found rfl hfound List.mem_cons_self
  obtain ⟨hview, hasks⟩ := hviews (new Search.itemList.top .counted) 0 (.ask findList :: askTwice)
    foundList (.later hreached askTwice id)
  refine ⟨?_, hview, hasks _ _ (.all (.raw "> li"))⟩
  rw [hsource, Option.map_some, hhistory, htakings]
  decide

end Session

end MarkupQuery
