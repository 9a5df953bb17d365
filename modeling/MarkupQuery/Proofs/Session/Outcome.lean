import MarkupQuery.Proofs.Query.Locator
import MarkupQuery.Proofs.Search.First
import MarkupQuery.Proofs.Session.Ask

/-!
# How a query ends

A query fails in three ways and in no other: its locator cannot be read, the selector in it cannot be
read, or the search has no target. In all other cases something is found, and what is found is the
scope itself exactly if the locator means the scope (`Session.resolve_outcome`).
-/

namespace MarkupQuery

namespace Search

open Css

variable {entries : SelectorList} {scope : Cursor}

/-! ### How a search ends -/

theorem cut_eq_nil_iff {α : Type} {want : Want} {found : List α} :
    want.cut found = [] ↔ found = [] := by
  cases want <;> cases found <;> simp [Want.cut]

/-- A search without targets fails, and it fails with the text of the selector. -/
theorem orNoMatch_targets_eq_error_iff {l : Locator} {want : Want} {e : Error} :
    orNoMatch l.css (sought l want)
        (want.cut ((targets entries l.childScoped scope).map Cursor.path)) = .error e ↔
      (∀ d, ¬ Target entries scope l.childScoped d) ∧ e = .noMatch l.css (sought l want) := by
  rw [orNoMatch_eq_error_iff, cut_eq_nil_iff, List.map_eq_nil_iff, List.eq_nil_iff_forall_not_mem]
  simp only [mem_targets]

/-- A locator that means the scope has no selector that could be read. -/
theorem not_meansScope_of_ofText? {l : Locator} (hread : SelectorList.ofText? l.css = some entries) :
    ¬ MeansScope l := by
  rintro ⟨hcss, -⟩
  rw [hcss, SelectorList.ofText?_empty] at hread
  cases hread

/-- A search ends with the scope, with a selector that cannot be read, or with what is made of its
targets. -/
theorem answer_cases (l : Locator) (scope : Cursor) (want : Want) :
    (MeansScope l ∧ answer l scope want = .ok [scope.path]) ∨
    (¬ MeansScope l ∧ SelectorList.ofText? l.css = none ∧
      answer l scope want = .error (.badSelector l.css)) ∨
    ∃ entries, SelectorList.ofText? l.css = some entries ∧
      answer l scope want = orNoMatch l.css (sought l want)
        (want.cut ((targets entries l.childScoped scope).map Cursor.path)) := by
  by_cases hmeans : MeansScope l
  · exact .inl ⟨hmeans, answer_of_meansScope hmeans scope want⟩
  · cases hread : SelectorList.ofText? l.css with
    | none => exact .inr (.inl ⟨hmeans, rfl, answer_of_ofText?_eq_none hmeans hread scope want⟩)
    | some entries =>
        exact .inr (.inr ⟨entries, rfl, answer_eq_orNoMatch hmeans hread scope want⟩)

/-- No target is the scope. -/
theorem path_ne_of_target {childScoped : Bool} {d : Cursor}
    (h : Target entries scope childScoped d) : d.path ≠ scope.path := by
  intro hpath
  have hearlier := Cursor.Earlier.of_below h.below_scope
  rw [Cursor.Earlier, hpath] at hearlier
  exact List.lt_irrefl _ hearlier

theorem answer_eq_scope_iff {l : Locator} {want : Want} :
    answer l scope want = .ok [scope.path] ↔ MeansScope l := by
  refine ⟨fun h => ?_, fun h => answer_of_meansScope h scope want⟩
  rcases answer_cases l scope want with ⟨hmeans, -⟩ | ⟨-, -, hanswer⟩ | ⟨entries, -, hanswer⟩
  · exact hmeans
  · rw [hanswer] at h
    cases h
  · rw [hanswer] at h
    have hcut := eq_of_orNoMatch h
    have hmem : scope.path ∈ want.cut ((targets entries l.childScoped scope).map Cursor.path) := by
      rw [← hcut]
      exact List.mem_singleton_self _
    obtain ⟨d, hd, hpath⟩ := List.mem_map.mp (mem_of_mem_cut hmem)
    exact absurd hpath (path_ne_of_target (mem_targets.mp hd))

theorem answer_eq_badSelector_iff {l : Locator} {want : Want} :
    answer l scope want = .error (.badSelector l.css) ↔
      SelectorList.ofText? l.css = none ∧ ¬ MeansScope l := by
  refine ⟨fun h => ?_, fun h => answer_of_ofText?_eq_none h.2 h.1 scope want⟩
  rcases answer_cases l scope want with ⟨-, hanswer⟩ | ⟨hmeans, hread, -⟩ | ⟨entries, -, hanswer⟩
  · rw [hanswer] at h
    cases h
  · exact ⟨hread, hmeans⟩
  · rw [hanswer, orNoMatch_eq_error_iff] at h
    cases h.2

theorem answer_eq_noMatch_iff {l : Locator} {want : Want} :
    answer l scope want = .error (.noMatch l.css (sought l want)) ↔
      ∃ entries, SelectorList.ofText? l.css = some entries ∧
        ∀ d, ¬ Target entries scope l.childScoped d := by
  constructor
  · intro h
    rcases answer_cases l scope want with ⟨-, hanswer⟩ | ⟨-, -, hanswer⟩ | ⟨entries, hread, hanswer⟩
    · rw [hanswer] at h
      cases h
    · rw [hanswer] at h
      cases h
    · rw [hanswer, orNoMatch_targets_eq_error_iff] at h
      exact ⟨entries, hread, h.1⟩
  · rintro ⟨entries, hread, hnone⟩
    rw [answer_eq_orNoMatch (not_meansScope_of_ofText? hread) hread,
      orNoMatch_targets_eq_error_iff]
    exact ⟨hnone, rfl⟩

/-- Where neither error is the answer, something is found. -/
theorem exists_of_answer {l : Locator} {want : Want}
    (hbad : answer l scope want ≠ .error (.badSelector l.css))
    (hnone : answer l scope want ≠ .error (.noMatch l.css (sought l want))) :
    ∃ paths, paths ≠ [] ∧ answer l scope want = .ok paths := by
  rcases answer_cases l scope want with ⟨-, hanswer⟩ | ⟨-, -, hanswer⟩ | ⟨entries, -, hanswer⟩
  · exact ⟨[scope.path], by simp, hanswer⟩
  · exact absurd hanswer hbad
  · rw [hanswer] at hnone ⊢
    refine ⟨_, ?_, if_neg ?_⟩
    all_goals
      intro hempty
      refine hnone (orNoMatch_eq_error_iff.mpr ⟨?_, rfl⟩)
      simpa using hempty

end Search

namespace Session

/-! ### How a query ends -/

/-- A query whose locator ends in a closing bracket without an opening one fails with the locator as
it was written. Any other locator can be read, and then the query

* finds the scope alone exactly if the locator means the scope,
* fails with the selector exactly if the selector cannot be read and the locator does not mean the
  scope,
* finds no match, of the kind that was searched for, exactly if the selector can be read and has no
  target,

and otherwise finds something. -/
theorem resolve_outcome (s : Session) (source : Nat) (scope : Location) (q : Query) (want : Want)
    (cursor : Cursor) (markers : Marker.Source) (hcursor : s.page.cursor? scope = some cursor)
    (hsource : s.sources[source]? = some markers)
    (hm : Css.IsPlain (Marker.classStem ++ markers.next.1))
    (hfree : cursor.top.FreeOf (Marker.classStem ++ markers.next.1)) :
    (Locator.IsUnopened q.locator →
      (s.resolve source scope q want).2 = .error (.badSelector q.locator)) ∧
    (¬ Locator.IsUnopened q.locator → ∃ l, Locator.parse? q.locator = some l ∧
      (s.resolve source scope q want).2 = (Search.find l cursor want markers).answer.map
        (fun paths => paths.map fun path =>
          findingAt s.page l q.component? source ⟨scope.tree, path⟩) ∧
      ((Search.find l cursor want markers).answer = .ok [scope.path] ↔
        l.css = "" ∧ l.childScoped = false) ∧
      ((s.resolve source scope q want).2 = .error (.badSelector l.css) ↔
        Css.SelectorList.ofText? l.css = none ∧ (l.css ≠ "" ∨ l.childScoped = true)) ∧
      ((s.resolve source scope q want).2 =
          .error (.noMatch l.css (if l.childScoped then .childNodes else want.sought)) ↔
        ∃ entries, Css.SelectorList.ofText? l.css = some entries ∧
          ∀ d, ¬ Search.Target entries cursor l.childScoped d) ∧
      ((s.resolve source scope q want).2 ≠ .error (.badSelector l.css) →
        (s.resolve source scope q want).2 ≠
          .error (.noMatch l.css (if l.childScoped then .childNodes else want.sought)) →
        ∃ found, found ≠ [] ∧ (s.resolve source scope q want).2 = .ok found)) := by
  constructor
  · intro hunopened
    rw [resolve, Locator.parse?_eq_none_iff.mpr hunopened]
  · intro hopened
    obtain ⟨l, hl⟩ := Option.ne_none_iff_exists'.mp (mt Locator.parse?_eq_none_iff.mp hopened)
    have hresolve := resolve_eq_map hl hcursor hsource want
    have hanswer : (Search.find l cursor want markers).answer = Search.answer l cursor want :=
      Search.answer_find hm hfree
    refine ⟨l, hl, hresolve, ?_, ?_, ?_, ?_⟩
    · rw [hanswer, ← Page.path_of_cursor? hcursor, Search.answer_eq_scope_iff, Search.MeansScope]
    · rw [hresolve, map_eq_error_iff, hanswer, Search.answer_eq_badSelector_iff,
        Search.MeansScope, not_and_or, Bool.not_eq_false]
    · rw [hresolve, map_eq_error_iff, hanswer]
      exact Search.answer_eq_noMatch_iff
    · rw [hresolve, ne_eq, ne_eq, map_eq_error_iff, map_eq_error_iff, hanswer]
      intro hbad hnone
      obtain ⟨paths, hne, hpaths⟩ := Search.exists_of_answer hbad hnone
      rw [hpaths]
      exact ⟨_, by simpa using hne, rfl⟩

/-- Asked of the list, a locator with a stray bracket and one without a selector are refused, and the
bold word is no child of the list. -/
theorem resolve_outcome_items :
    ((new Search.itemList.top .counted).resolve 0 ⟨0, [0]⟩ (.raw "li]") .all).2 =
        .error (.badSelector "li]") ∧
      ((new Search.itemList.top .counted).resolve 0 ⟨0, [0]⟩ (.raw ">") .all).2 =
        .error (.badSelector "") ∧
      ((new Search.itemList.top .counted).resolve 0 ⟨0, [0]⟩ (.raw "> b") .all).2 =
        .error (.noMatch "b" .childNodes) := by
  have outcome (q : Query) := resolve_outcome (new Search.itemList.top .counted) 0 ⟨0, [0]⟩ q .all
    Search.itemList .counted rfl rfl (by decide) (by decide)
  refine ⟨?_, ?_, ?_⟩
  · exact (outcome (.raw "li]")).1 (by decide)
  · obtain ⟨l, hl, -, -, hbad, -⟩ := (outcome (.raw ">")).2 (by decide)
    have hparse : Locator.parse? ">" = some ⟨"", none, true⟩ := by decide
    obtain rfl := Option.some.inj (hparse.symm.trans hl)
    exact hbad.mpr ⟨Css.SelectorList.ofText?_empty, Or.inr rfl⟩
  · obtain ⟨l, hl, -, -, -, hnone, -⟩ := (outcome (.raw "> b")).2 (by decide)
    have hparse : Locator.parse? "> b" = some ⟨"b", none, true⟩ := by decide
    obtain rfl := Option.some.inj (hparse.symm.trans hl)
    have hread : Css.SelectorList.ofText? "b" = some [⟨⟨.named "b", []⟩, []⟩] := by
      have htext : Css.Complex.text ⟨⟨.named "b", []⟩, []⟩ = "b" := by decide
      rw [← htext]
      exact Css.Complex.ofText?_text ⟨Css.Compound.writable_named (by decide), by simp⟩
    refine hnone.mpr ⟨_, hread, fun d hd => ?_⟩
    have hempty : Search.targets [⟨⟨.named "b", []⟩, []⟩] true Search.itemList = [] := by
      decide +kernel
    have hmem := Search.mem_targets.mpr hd
    rw [hempty] at hmem
    cases hmem

end Session

end MarkupQuery
