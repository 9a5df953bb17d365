import Mathlib
import MarkupQuery.Proofs.Session.Outcome
import MarkupQuery.Proofs.Session.Views

/-!
# The first finding of a query

To ask for the first finding of a query and to ask for all of them comes to the same, as long as the
same id is handed out next (`Session.SearchesAlike`): the one finding is the first of all, and if one
question fails then so does the other (`Session.firstOf_resolve`). An answer without findings does
not come, so the error that is kept ready for it is never answered
(`Session.first_is_head_of_all`).
-/

namespace MarkupQuery.Session

/-- Whether a source of ids leads to the same answers in two sessions: they have the same page, and
the next id of the source is the same in both. -/
structure SearchesAlike (s s' : Session) (source : Nat) : Prop where
  page_eq : s.page = s'.page
  next_eq : ∃ m m', s.sources[source]? = some m ∧ s'.sources[source]? = some m' ∧
    m.next.1 = m'.next.1

variable {s s' : Session} {source : Nat} {scope : Location} {q : Query}

theorem firstOf_resolve {cursor : Cursor} (hcursor : s.page.cursor? scope = some cursor)
    (halike : s.SearchesAlike s' source) (q : Query) :
    Search.FirstOf (Locator.parse? q.locator) (s.resolve source scope q .first).2
      (s'.resolve source scope q .all).2 := by
  obtain ⟨hpage, m, m', hm, hm', hid⟩ := halike
  cases hl : Locator.parse? q.locator with
  | none =>
      unfold resolve
      rw [hl]
      apply Search.FirstOf.error
      rintro l ⟨⟩
  | some l =>
      rw [resolve_eq_map hl hcursor hm, resolve_eq_map hl (hpage ▸ hcursor) hm', hpage]
      exact (Search.firstOf_find hid).map _

theorem map_selectFirst :
    (s.selectFirst source scope q).2.map (fun f => [f]) = (s.resolve source scope q .first).2 :=
  congrArg Prod.snd (s.ask_selectFirst source scope q)

theorem selectFirst_eq_ok_iff {f : Finding} :
    (s.selectFirst source scope q).2 = .ok f ↔ (s.resolve source scope q .first).2 = .ok [f] := by
  rw [← map_selectFirst, map_eq_ok_iff]
  constructor
  · intro h
    exact ⟨f, h, rfl⟩
  · rintro ⟨g, hg, heq⟩
    cases heq
    exact hg

theorem selectFirst_eq_error_iff {e : Error} :
    (s.selectFirst source scope q).2 = .error e ↔
      (s.resolve source scope q .first).2 = .error e := by
  rw [← map_selectFirst, map_eq_error_iff]

/-- What a query answers if one finding is wanted, and what it answers if all are. One of them is an
answer exactly if the other is; the first holds one finding then, which stands in front of all
others in the second. If they fail it is with the same error, and this is no missing match of a plain
locator; or a plain locator has no match, and the one says that it was searched for a node, the other
that it was searched for nodes.

So the first finding is the head of all findings. An answer to the first question that holds no
finding does not come, and the question for the first finding fails only if that question fails. -/
theorem first_is_head_of_all (s s' : Session) (source : Nat) (scope : Location) (q : Query)
    (cursor : Cursor) (hcursor : s.page.cursor? scope = some cursor)
    (halike : s.SearchesAlike s' source) :
    ((∃ found, (s.resolve source scope q .first).2 = .ok found) ↔
      ∃ found, (s'.resolve source scope q .all).2 = .ok found) ∧
    (∀ first all, (s.resolve source scope q .first).2 = .ok first →
      (s'.resolve source scope q .all).2 = .ok all →
        ∃ f rest, first = [f] ∧ all = f :: rest) ∧
    (∀ e e', (s.resolve source scope q .first).2 = .error e →
      (s'.resolve source scope q .all).2 = .error e' →
        (e = e' ∧ ∀ l, Locator.parse? q.locator = some l → l.childScoped = false →
          e.isNoMatch = false) ∨
        ∃ l, Locator.parse? q.locator = some l ∧ l.childScoped = false ∧
          e = .noMatch l.css .node ∧ e' = .noMatch l.css .nodes) ∧
    (∀ f, (s.selectFirst source scope q).2 = .ok f ↔
      ∃ rest, (s'.selectAll source scope q).2 = .ok (f :: rest)) ∧
    (s.resolve source scope q .first).2 ≠ .ok [] ∧
    ∀ e, (s.selectFirst source scope q).2 = .error e ↔
      (s.resolve source scope q .first).2 = .error e := by
  have hfirst := firstOf_resolve hcursor halike q
  simp only [selectFirst_eq_ok_iff, selectFirst_eq_error_iff, selectAll]
  generalize (s.resolve source scope q .first).2 = first at hfirst
  generalize (s'.resolve source scope q .all).2 = all at hfirst
  cases hfirst with
  | found f rest =>
      refine ⟨by simp, ?_, by simp, ?_, by simp, by simp⟩
      · rintro _ _ ⟨⟩ ⟨⟩
        exact ⟨f, rest, rfl, rfl⟩
      · intro g
        simp
  | noMatch hl hplain =>
      refine ⟨by simp, by simp, ?_, by simp, by simp, by simp⟩
      rintro _ _ ⟨⟩ ⟨⟩
      exact .inr ⟨_, hl, hplain, rfl, rfl⟩
  | error he =>
      refine ⟨by simp, by simp, ?_, by simp, by simp, by simp⟩
      rintro _ _ ⟨⟩ ⟨⟩
      exact .inl ⟨rfl, he⟩

/-- With counted ids the first item of the list is found, and with the same id from a list all items
are. -/
theorem first_is_head_of_all_items :
    ((new Search.itemList.top .counted).selectFirst 0 ⟨0, [0]⟩ (.raw "> li")).2 =
        .ok (.node ⟨0, [0, 0]⟩) ∧
      ((new Search.itemList.top .counted).resolve 0 ⟨0, [0]⟩ (.raw "> li") .first).2 ≠ .ok [] := by
  have halike : (new Search.itemList.top .counted).SearchesAlike
      (new Search.itemList.top (.listed ["0"])) 0 := ⟨rfl, _, _, rfl, rfl, by decide⟩
  have hall : ((new Search.itemList.top (.listed ["0"])).selectAll 0 ⟨0, [0]⟩ (.raw "> li")).2 =
      .ok [.node ⟨0, [0, 0]⟩, .node ⟨0, [0, 1]⟩] := by
    cbv
  obtain ⟨-, -, -, hhead, hne, -⟩ := first_is_head_of_all _ _ 0 ⟨0, [0]⟩ (.raw "> li")
    Search.itemList rfl halike
  exact ⟨(hhead _).mpr ⟨_, hall⟩, hne⟩

end MarkupQuery.Session
