import MarkupQuery.Proofs.Search.Descendants

/-!
# What stands around a scope

A child-scoped search looks at nothing but what stands below its scope. Two elements with the same
children have the same findings below them, each in a tree of its own, and the same steps lead to
them (`Search.find_same_anywhere`).

An element without a parent cannot be marked, and its children are searched in another way. For
selectors without combinators that makes no difference: what hangs on an element then is a child of
it that an entry matches (`Search.targets_eq_hanging`).
-/

namespace MarkupQuery

namespace Search

open Css

variable {entries : SelectorList} {scope scope' : Cursor}

/-- Two answers are the same as seen from two places: they are the same error, or the same steps
lead from the one place and from the other to what they name. -/
def SameFrom (s s' : Cursor) (a a' : Except Error (List Path)) : Prop :=
  ∃ steps : Except Error (List Path),
    a = steps.map (·.map (s.path ++ ·)) ∧ a' = steps.map (·.map (s'.path ++ ·))

theorem sameFrom_error (s s' : Cursor) (e : Error) : SameFrom s s' (.error e) (.error e) :=
  ⟨.error e, rfl, rfl⟩

/-- The same steps lead to twins. -/
theorem exists_steps_of_twins {s s' : Cursor} {cs ds : List Cursor}
    (h : List.Forall₂ (Cursor.Twin s s') cs ds) :
    ∃ steps : List Path, cs.map Cursor.path = steps.map (s.path ++ ·) ∧
      ds.map Cursor.path = steps.map (s'.path ++ ·) := by
  induction h with
  | nil => exact ⟨[], rfl, rfl⟩
  | cons htwin _ ih =>
      obtain ⟨q, hq, hq'⟩ := htwin.exists_path_eq_append
      obtain ⟨steps, hcs, hds⟩ := ih
      exact ⟨q :: steps, by rw [List.map_cons, List.map_cons, hq, hcs],
        by rw [List.map_cons, List.map_cons, hq', hds]⟩

theorem orNoMatch_cut_map (css : String) (sought : Sought) (want : Want) (f : Path → Path)
    (found : List Path) :
    orNoMatch css sought (want.cut (found.map f)) =
      (orNoMatch css sought (want.cut found)).map (·.map f) := by
  cases want <;> cases found <;> rfl

/-- Searches whose targets are twins have the same answer. -/
theorem sameFrom_of_twins {l : Locator} (hmeans : ¬ MeansScope l)
    (hread : SelectorList.ofText? l.css = some entries)
    (h : List.Forall₂ (Cursor.Twin scope scope') (targets entries l.childScoped scope)
      (targets entries l.childScoped scope')) (want : Want) :
    SameFrom scope scope' (answer l scope want) (answer l scope' want) := by
  obtain ⟨steps, hsteps, hsteps'⟩ := exists_steps_of_twins h
  refine ⟨orNoMatch l.css (sought l want) (want.cut steps), ?_, ?_⟩
  · rw [answer_eq_orNoMatch hmeans hread, hsteps, orNoMatch_cut_map]
  · rw [answer_eq_orNoMatch hmeans hread, hsteps', orNoMatch_cut_map]

theorem targets_of_canMark (h : canMark scope = true) :
    targets entries true scope = hanging entries scope := by
  rw [targets, if_pos rfl, if_pos h]

/-! ### Selectors without combinators -/

/-- Without combinators a selector hangs on an element at the children that it matches. -/
theorem hangsOn_iff_of_left_eq_nil {e : Css.Complex} (he : e.left = []) {s d : Cursor} :
    e.HangsOn s d ↔ d.parent? = some s ∧ e.Matches d := by
  rw [Complex.HangsOn, Complex.Matches, he]
  constructor
  · rintro ⟨hsubject, hparent⟩
    exact ⟨hparent, hsubject, .alone d⟩
  · rintro ⟨hparent, hsubject, -⟩
    exact ⟨hsubject, hparent⟩

theorem hangs_iff_of_left_eq_nil (hentries : ∀ e ∈ entries, e.left = []) {s d : Cursor} :
    Hangs entries s d ↔ d.parent? = some s ∧ ∃ e ∈ entries, e.Matches d := by
  constructor
  · rintro ⟨e, he, hang⟩
    obtain ⟨hparent, hmatch⟩ := (hangsOn_iff_of_left_eq_nil (hentries e he)).mp hang
    exact ⟨hparent, e, he, hmatch⟩
  · rintro ⟨hparent, e, he, hmatch⟩
    exact ⟨e, he, (hangsOn_iff_of_left_eq_nil (hentries e he)).mpr ⟨hparent, hmatch⟩⟩

theorem mem_hanging_of_left_eq_nil (hentries : ∀ e ∈ entries, e.left = []) {s d : Cursor} :
    d ∈ hanging entries s ↔
      d.parent? = some s ∧ d.isElement = true ∧ ∃ e ∈ entries, e.Matches d := by
  rw [mem_hanging, hangs_iff_of_left_eq_nil hentries]
  constructor
  · rintro ⟨hparent, e, he, hmatch⟩
    exact ⟨hparent, hmatch.isElement, e, he, hmatch⟩
  · rintro ⟨hparent, -, hmatch⟩
    exact ⟨hparent, hmatch⟩

/-- Without combinators it makes no difference whether the scope can be marked. -/
theorem targets_eq_hanging (hentries : ∀ e ∈ entries, e.left = []) (s : Cursor) :
    targets entries true s = hanging entries s := by
  refine Cursor.eq_of_sorted (targets_sorted entries true s) (hanging_sorted entries s) ?_
  intro d
  rw [mem_targets, mem_hanging]
  constructor
  · rintro (_ | ⟨-, hang⟩ | ⟨-, hparent, hmatch⟩)
    · exact hang
    · exact (hangs_iff_of_left_eq_nil hentries).mpr ⟨hparent, hmatch⟩
  · intro hang
    cases hcan : canMark s with
    | true => exact .hanging hcan hang
    | false =>
        obtain ⟨hparent, hmatch⟩ := (hangs_iff_of_left_eq_nil hentries).mp hang
        exact .child hcan hparent hmatch

/-! ### The same element in two trees -/

/-- A child-scoped search of an element answers the same wherever the element stands below another
node, with whatever around it. If no entry has a combinator, it also answers the same where the
element has no parent, and always finds just the children that an entry matches, in order. -/
theorem find_same_anywhere (l : Locator) (scope scope' : Cursor) (want : Want)
    (markers markers' : Marker.Source) (hl : l.childScoped = true)
    (hfocus : scope.focus = scope'.focus) (hel : scope.isElement = true)
    (hm : IsPlain (Marker.classStem ++ markers.next.1))
    (hfree : scope.top.FreeOf (Marker.classStem ++ markers.next.1))
    (hm' : IsPlain (Marker.classStem ++ markers'.next.1))
    (hfree' : scope'.top.FreeOf (Marker.classStem ++ markers'.next.1)) :
    (scope.parent?.isSome = true → scope'.parent?.isSome = true →
      SameFrom scope scope' (find l scope want markers).answer
        (find l scope' want markers').answer) ∧
    ∀ entries, SelectorList.ofText? l.css = some entries → (∀ e ∈ entries, e.left = []) →
      SameFrom scope scope' (find l scope want markers).answer
        (find l scope' want markers').answer ∧
      ∃ hits : List Cursor,
        hits.Pairwise Cursor.Earlier ∧
        (∀ d, d ∈ hits ↔ d.parent? = some scope ∧ d.isElement = true ∧
          ∃ e ∈ entries, e.Matches d) ∧
        (find l scope want markers).answer =
          (if hits = [] then .error (.noMatch l.css .childNodes)
            else .ok (want.cut (hits.map Cursor.path))) := by
  have hel' : scope'.isElement = true := by
    rw [← hel, Cursor.isElement, Cursor.isElement, Cursor.label, Cursor.label, hfocus]
  have hrow : scope.focus.children = scope'.focus.children := by rw [hfocus]
  have hmeans : ¬ MeansScope l := by
    rintro ⟨-, hplain⟩
    rw [hl] at hplain
    cases hplain
  rw [answer_find hm hfree, answer_find hm' hfree']
  constructor
  · intro hp hp'
    cases hread : SelectorList.ofText? l.css with
    | none =>
        rw [answer_of_ofText?_eq_none hmeans hread, answer_of_ofText?_eq_none hmeans hread]
        exact sameFrom_error scope scope' _
    | some entries =>
        refine sameFrom_of_twins hmeans hread ?_ want
        rw [hl, targets_of_canMark (canMark_eq_true hel hp),
          targets_of_canMark (canMark_eq_true hel' hp')]
        exact forall₂_hanging hel hel' hrow
  · intro entries hread hentries
    constructor
    · refine sameFrom_of_twins hmeans hread ?_ want
      rw [hl, targets_eq_hanging hentries, targets_eq_hanging hentries]
      exact forall₂_hanging hel hel' hrow
    · refine ⟨hanging entries scope, hanging_sorted entries scope,
        fun _ => mem_hanging_of_left_eq_nil hentries, ?_⟩
      rw [answer_eq_orNoMatch hmeans hread, hl, targets_eq_hanging hentries, sought, hl]
      cases want <;> cases hanging entries scope <;> rfl

/-- The list of two items in a fragment, between a text and an empty division. -/
def listInFragment : Cursor :=
  ⟨itemList.focus, [⟨.fragment, [.leaf (.text "Items")], [.leaf (.element (.html "div") [])]⟩]⟩

def looseList : Cursor := ⟨itemList.focus, []⟩

/-- In the division and in the fragment `> li b` finds the same word, although a different class
marks the list; by itself the list has the same items behind `> li` as in the division. -/
theorem find_same_anywhere_items :
    SameFrom itemList listInFragment (find ⟨"li b", none, true⟩ itemList .first .counted).answer
        (find ⟨"li b", none, true⟩ listInFragment .first (.listed ["a"])).answer ∧
      SameFrom looseList itemList (find ⟨"li", none, true⟩ looseList .all .counted).answer
        (find ⟨"li", none, true⟩ itemList .all .counted).answer ∧
      (find ⟨"li", none, true⟩ looseList .all .counted).answer = .ok [[0], [1]] := by
  have hread : SelectorList.ofText? "li" = some [anItem] := by
    have htext : anItem.text = "li" := by decide
    rw [← htext]
    exact Complex.ofText?_text writable_anItem
  have hsimple : ∀ e ∈ [anItem], e.left = [] := by simp [anItem]
  obtain ⟨hword, -⟩ := find_same_anywhere ⟨"li b", none, true⟩ itemList listInFragment .first
    .counted (.listed ["a"]) rfl rfl rfl (by decide) (by decide) (by decide) (by decide)
  obtain ⟨-, hitems⟩ := find_same_anywhere ⟨"li", none, true⟩ looseList itemList .all
    .counted .counted rfl rfl rfl (by decide) (by decide) (by decide) (by decide)
  obtain ⟨hsame, hits, hsorted, hmem, hfind⟩ := hitems [anItem] hread hsimple
  have hhits : hits = hanging [anItem] looseList :=
    Cursor.eq_of_sorted hsorted (hanging_sorted _ _) fun d => by
      rw [hmem, mem_hanging_of_left_eq_nil hsimple]
  refine ⟨hword rfl rfl, hsame, ?_⟩
  rw [hfind, hhits]
  decide +kernel

end Search

end MarkupQuery
