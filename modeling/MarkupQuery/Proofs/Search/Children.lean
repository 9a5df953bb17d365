import MarkupQuery.Proofs.Css.Reading
import MarkupQuery.Proofs.Css.RoundTrip
import MarkupQuery.Proofs.Css.Twin
import MarkupQuery.Proofs.Search.Marked
import MarkupQuery.Search.Basic

/-!
# What a child-scoped search finds

The text that a marked search runs reads as the entries of the selector, each anchored behind the
class of the mark (`Search.ofText?_markedText`). In a tree that was free of that class only the
scope carries it, so what the search finds is what hangs on the marked scope; and a selector that
hangs on the marked scope hangs on the scope as it was (`Cursor.Twin.hangsOn_iff`). So the search
finds what hangs on the scope in the tree without a mark (`Search.answer_belowChildren`).
-/

namespace MarkupQuery

open Css

/-- The compound of a class matches the elements that carry it. -/
theorem Css.Compound.holds_ofClass_iff {name : String} {c : Cursor} :
    (Compound.ofClass name).holds c = true ↔ hasClass name c = true := by
  obtain ⟨⟨l, cs⟩, above⟩ := c
  cases l with
  | element n as =>
      simp [Compound.ofClass, Compound.holds, TypeTest.holdsAt, TypeTest.holds, Simple.holds,
        Cursor.label, Tree.label, Node.name?]
  | _ =>
      -- what is no element has no attributes, and so no classes
      simp [Compound.ofClass, Compound.holds, TypeTest.holdsAt, hasClass, Cursor.label, Tree.label,
        Node.name?, Node.attribute?, Node.attributes, Attributes.get?]

namespace Search

variable {scope : Cursor} {mark : String} {entries : SelectorList}

/-- Whether an entry of a list hangs on an element at a place. -/
def Hangs (entries : SelectorList) (s d : Cursor) : Prop := ∃ e ∈ entries, e.HangsOn s d

instance (entries : SelectorList) (s d : Cursor) : Decidable (Hangs entries s d) :=
  inferInstanceAs (Decidable (∃ e ∈ entries, e.HangsOn s d))

theorem Hangs.below {s d : Cursor} (h : Hangs entries s d) : s.Below d := by
  obtain ⟨e, -, he⟩ := h
  exact he.below

/-- The marked text is how the anchored entries are written. -/
theorem markedText_eq (hm : IsPlain mark) (l : SelectorList) :
    markedText mark l =
      ", ".intercalate ((l.map (·.anchor .child (.ofClass mark))).map Complex.text) := by
  rw [markedText, List.map_map]
  congr 1
  refine List.map_congr_left fun e _ => ?_
  exact (e.text_anchor_ofClass hm).symm

/-- The marked text reads as the entries, anchored behind the class. -/
theorem ofText?_markedText {css : String} {l : SelectorList}
    (h : SelectorList.ofText? css = some l) (hm : IsPlain mark) :
    SelectorList.ofText? (markedText mark l) =
      some (l.map (·.anchor .child (.ofClass mark))) := by
  have hwritable := SelectorList.writable_of_ofText? h
  rw [markedText_eq hm]
  refine SelectorList.ofText?_text ?_ ?_
  · simpa using SelectorList.ne_nil_of_ofText? h
  · intro e he
    obtain ⟨e', he', rfl⟩ := List.mem_map.mp he
    exact (hwritable e' he').anchor (Compound.writable_ofClass hm.isName) .child

/-- Anchored behind a class, entries select what hangs on the elements that carry it. -/
theorem selects_anchored_iff {d : Cursor} :
    SelectorList.selects (entries.map (·.anchor .child (.ofClass mark))) d = true ↔
      ∃ s, hasClass mark s = true ∧ Hangs entries s d := by
  simp only [Hangs, SelectorList.selects, List.any_map, List.any_eq_true, Function.comp_apply,
    Complex.selects_anchor_iff, Compound.holds_ofClass_iff]
  constructor
  · rintro ⟨e, he, s, hclass, hang⟩
    exact ⟨s, hclass, e, he, hang⟩
  · rintro ⟨s, hclass, e, he, hang⟩
    exact ⟨e, he, s, hclass, hang⟩

theorem mem_aroundScope {c d : Cursor} (hp : c.parent?.isSome = true) (h : c.Below d) :
    d ∈ aroundScope c := by
  obtain ⟨p, hp⟩ := Option.isSome_iff_exists.mp hp
  rw [aroundScope, hp]
  exact Cursor.mem_inclusiveDescendants.mpr (Or.inr ((Cursor.Below.child hp).trans h))

theorem top_of_mem_aroundScope {c d : Cursor} (h : d ∈ aroundScope c) : d.top = c.top := by
  rw [aroundScope] at h
  split at h
  · rename_i p hp
    rw [← Cursor.top_of_parent? hp]
    rcases Cursor.mem_inclusiveDescendants.mp h with rfl | hb
    · rfl
    · exact hb.top
  · cases h

theorem aroundScope_sorted (c : Cursor) : (aroundScope c).Pairwise Cursor.Earlier := by
  rw [aroundScope]
  split
  · exact Cursor.inclusiveDescendants_sorted _
  · exact List.Pairwise.nil

theorem parent?_isSome_mark (m : String) (c : Cursor) :
    (c.mark m).parent?.isSome = c.parent?.isSome := by
  obtain ⟨t, _ | ⟨crumb, above⟩⟩ := c <;> rfl

/-- Around a marked scope the anchored entries select what hangs on the marked scope. -/
theorem selects_around_iff (hel : scope.isElement = true) (hm : IsPlain mark)
    (hfree : scope.top.FreeOf mark) {d : Cursor} (hd : d.top = (scope.mark mark).top) :
    SelectorList.selects (entries.map (·.anchor .child (.ofClass mark))) d = true ↔
      Hangs entries (scope.mark mark) d := by
  rw [selects_anchored_iff]
  constructor
  · rintro ⟨s, hclass, hang⟩
    -- whatever carries the class is the marked scope
    obtain rfl := eq_mark_of_hasClass hfree (hang.below.top.symm.trans hd) hclass
    exact hang
  · intro hang
    exact ⟨scope.mark mark, hasClass_mark hm hel, hang⟩

/-- The places where an entry hangs on an element, in document order. -/
def hanging (entries : SelectorList) (s : Cursor) : List Cursor :=
  s.descendants.filter (Hangs entries s ·)

theorem mem_hanging {s d : Cursor} : d ∈ hanging entries s ↔ Hangs entries s d := by
  rw [hanging, List.mem_filter, Cursor.mem_descendants, decide_eq_true_iff]
  exact and_iff_right_of_imp Hangs.below

theorem hanging_sorted (entries : SelectorList) (s : Cursor) :
    (hanging entries s).Pairwise Cursor.Earlier :=
  s.descendants_sorted.filter _

/-- What hangs on two elements with the same children are twins, one by one. -/
theorem forall₂_hanging {s s' : Cursor} (hs : s.isElement = true) (hs' : s'.isElement = true)
    (hrow : s.focus.children = s'.focus.children) :
    List.Forall₂ (Cursor.Twin s s') (hanging entries s) (hanging entries s') := by
  refine List.rel_filter ?_ (Cursor.Twin.forall₂_descendants hrow)
  intro d d' hdd'
  have hang : Hangs entries s d ↔ Hangs entries s' d' :=
    exists_congr fun e => and_congr_right fun _ => hdd'.hangsOn_iff hs hs' e
  simpa using hang

/-- Marking the scope changes nothing about what hangs on it. -/
theorem path_hanging_mark (hel : scope.isElement = true) (mark : String) :
    (hanging entries (scope.mark mark)).map Cursor.path =
      (hanging entries scope).map Cursor.path := by
  have hel' : (scope.mark mark).isElement = true := by rw [Cursor.isElement_mark, hel]
  have hpath : List.Forall₂ (fun p q : Path => p = q)
      ((hanging entries (scope.mark mark)).map Cursor.path)
      ((hanging entries scope).map Cursor.path) := by
    rw [List.forall₂_map_left_iff, List.forall₂_map_right_iff]
    exact (forall₂_hanging hel' hel (scope.children_focus_mark mark)).imp
      fun d d' hdd' => hdd'.path_eq (scope.path_mark mark)
  rwa [List.forall₂_eq_eq_eq] at hpath

/-- The marked search finds what hangs on the scope. -/
theorem select_around (hel : scope.isElement = true) (hp : scope.parent?.isSome = true)
    (hm : IsPlain mark) (hfree : scope.top.FreeOf mark) :
    select (entries.map (·.anchor .child (.ofClass mark))) (aroundScope (scope.mark mark)) =
      (hanging entries scope).map Cursor.path := by
  have hlist : (aroundScope (scope.mark mark)).filter
      (SelectorList.selects (entries.map (·.anchor .child (.ofClass mark)))) =
        hanging entries (scope.mark mark) := by
    refine Cursor.eq_of_sorted ((aroundScope_sorted _).filter _) (hanging_sorted _ _) ?_
    intro d
    rw [List.mem_filter, mem_hanging]
    constructor
    · rintro ⟨hd, hsel⟩
      exact (selects_around_iff hel hm hfree (top_of_mem_aroundScope hd)).mp hsel
    · intro hang
      exact ⟨mem_aroundScope (by rw [parent?_isSome_mark, hp]) hang.below,
        (selects_around_iff hel hm hfree hang.below.top).mpr hang⟩
  rw [select, hlist, path_hanging_mark hel]

theorem canMark_eq_true (hel : scope.isElement = true) (hp : scope.parent?.isSome = true) :
    canMark scope = true := by
  rw [canMark, hel, hp]
  rfl

/-- A marked search selects with the anchored entries around the marked scope. -/
theorem answer_marked {css : String} {markers : Marker.Source}
    (hread : SelectorList.ofText? css = some entries) (hel : scope.isElement = true)
    (hp : scope.parent?.isSome = true) (hm : IsPlain (Marker.classStem ++ markers.next.1)) :
    (belowChildren css scope markers).answer = orNoMatch css .childNodes
      (select (entries.map (·.anchor .child (.ofClass (Marker.classStem ++ markers.next.1))))
        (aroundScope (scope.mark (Marker.classStem ++ markers.next.1)))) := by
  rw [belowChildren, hread]
  simp only [canMark_eq_true hel hp, if_true]
  rw [ofText?_markedText hread hm]

/-- The answer of a child-scoped search, from the tree without a mark. -/
theorem answer_belowChildren {css : String} {markers : Marker.Source}
    (hread : SelectorList.ofText? css = some entries) (hel : scope.isElement = true)
    (hp : scope.parent?.isSome = true) (hm : IsPlain (Marker.classStem ++ markers.next.1))
    (hfree : scope.top.FreeOf (Marker.classStem ++ markers.next.1)) :
    (belowChildren css scope markers).answer =
      orNoMatch css .childNodes ((hanging entries scope).map Cursor.path) := by
  rw [answer_marked hread hel hp hm, select_around hel hp hm hfree]

theorem eq_of_orNoMatch {css : String} {sought : Sought} {found paths : List Path}
    (h : orNoMatch css sought found = .ok paths) : paths = found := by
  rw [orNoMatch] at h
  split at h
  · cases h
  · cases h
    rfl

theorem mem_of_mem_cut {α : Type} {want : Want} {found : List α} {a : α}
    (h : a ∈ want.cut found) : a ∈ found := by
  cases want with
  | first => exact List.mem_of_mem_take h
  | all => exact h

/-- The answer of a child-scoped search as a function of the tree alone. -/
def childAnswer (css : String) (scope : Cursor) : Except Error (List Path) :=
  match SelectorList.ofText? css with
  | none => .error (.badSelector css)
  | some entries => orNoMatch css .childNodes
      (if canMark scope then (hanging entries scope).map Cursor.path
        else select entries scope.children)

/-- The answer of a search as a function of the tree alone. -/
def answer (l : Locator) (scope : Cursor) (want : Want) : Except Error (List Path) :=
  if l.childScoped then (childAnswer l.css scope).map want.cut
  else if l.isSelf then .ok [scope.path]
  else below l.css scope want

/-- The id that a search takes does not show in its answer, as long as its class is a plain name
that nothing in the tree carries. -/
theorem answer_find {l : Locator} {want : Want} {markers : Marker.Source}
    (hm : IsPlain (Marker.classStem ++ markers.next.1))
    (hfree : scope.top.FreeOf (Marker.classStem ++ markers.next.1)) :
    (find l scope want markers).answer = answer l scope want := by
  have hchild : (belowChildren l.css scope markers).answer = childAnswer l.css scope := by
    rw [childAnswer]
    cases hread : SelectorList.ofText? l.css with
    | none => simp [belowChildren, hread]
    | some entries =>
        cases hcan : canMark scope with
        | true =>
            obtain ⟨hel, hp⟩ := Bool.and_eq_true_iff.mp hcan
            rw [answer_belowChildren hread hel hp hm hfree]
            rfl
        | false => simp [belowChildren, hread, hcan]
  rw [find, answer]
  split
  · rw [← hchild]
  · split
    · rfl
    · rfl

/-- What a child-scoped search of an element below another node finds: the places below it at which
an entry matches in the tree as it is, with the leftmost compound at a child of the element, each
of them once and in document order. -/
theorem find_childScoped (l : Locator) (scope : Cursor) (markers : Marker.Source)
    (entries : SelectorList) (hl : l.childScoped = true)
    (hread : SelectorList.ofText? l.css = some entries) (hel : scope.isElement = true)
    (hp : scope.parent?.isSome = true) (hm : IsPlain (Marker.classStem ++ markers.next.1))
    (hfree : scope.top.FreeOf (Marker.classStem ++ markers.next.1)) :
    ∃ hits : List Cursor,
      hits.Pairwise Cursor.Earlier ∧
      (∀ d, d ∈ hits ↔ scope.Below d ∧ ∃ e ∈ entries, e.HangsOn scope d) ∧
      (find l scope .all markers).answer =
        (if hits = [] then .error (.noMatch l.css .childNodes) else .ok (hits.map Cursor.path)) ∧
      (find l scope .first markers).answer =
        (match hits with
          | [] => .error (.noMatch l.css .childNodes)
          | d :: _ => .ok [d.path]) := by
  have hanswer := answer_belowChildren hread hel hp hm hfree
  refine ⟨hanging entries scope, hanging_sorted entries scope, ?_, ?_, ?_⟩
  · intro d
    rw [mem_hanging]
    exact ⟨fun h => ⟨h.below, h⟩, fun h => h.2⟩
  · simp only [find, hl, if_true, hanswer]
    cases hanging entries scope <;> rfl
  · simp only [find, hl, if_true, hanswer]
    cases hanging entries scope <;> rfl

/-- A list in a division. It has two items, and the second one holds a bold word. -/
def itemList : Cursor :=
  let tag (name : String) : Node := .element ⟨.html, name⟩ []
  ⟨.node (tag "ul") [.leaf (tag "li"), .node (tag "li") [.leaf (tag "b")]], [⟨tag "div", [], []⟩]⟩

def anItem : Css.Complex := ⟨⟨.named "li", []⟩, []⟩

def boldInItem : Css.Complex := ⟨⟨.named "b", []⟩, [(.descendant, ⟨.named "li", []⟩)]⟩

theorem writable_anItem : anItem.Writable :=
  ⟨Compound.writable_named (by decide), by simp [anItem]⟩

theorem writable_boldInItem : boldInItem.Writable := by
  refine ⟨Compound.writable_named (by decide), ?_⟩
  intro step hstep
  rw [List.mem_singleton.mp hstep]
  exact writable_anItem.1

/-- Behind `>` the selector `li, li b` finds the items and the bold word. -/
theorem find_childScoped_items :
    (find ⟨"li, li b", none, true⟩ itemList .all .counted).answer =
        .ok [[0, 0], [0, 1], [0, 1, 0]] ∧
      (find ⟨"li, li b", none, true⟩ itemList .first .counted).answer = .ok [[0, 0]] := by
  have hread : SelectorList.ofText? "li, li b" = some [anItem, boldInItem] := by
    have htext : ", ".intercalate ([anItem, boldInItem].map Complex.text) = "li, li b" := by decide
    rw [← htext]
    exact SelectorList.ofText?_text (by simp) (by simp [writable_anItem, writable_boldInItem])
  obtain ⟨hits, hsorted, hmem, hall, hfirst⟩ :=
    find_childScoped ⟨"li, li b", none, true⟩ itemList .counted [anItem, boldInItem] rfl hread
      rfl rfl (by decide) (by decide)
  have hhits : hits = hanging [anItem, boldInItem] itemList := by
    refine Cursor.eq_of_sorted hsorted (hanging_sorted _ itemList) ?_
    intro d
    rw [hmem, mem_hanging]
    exact ⟨fun h => h.2, fun h => ⟨h.below, h⟩⟩
  rw [hall, hfirst, hhits]
  constructor <;> decide +kernel

end Search

end MarkupQuery
