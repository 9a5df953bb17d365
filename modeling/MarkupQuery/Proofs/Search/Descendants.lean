import MarkupQuery.Proofs.Search.Children

/-!
# What a search finds

A selector matches a place when its subject matches there and its left part can be matched around
it, step by step, by elements anywhere in the tree (`Complex.Matches`). The places that a search is
after are its *targets* (`Search.Target`): for a plain locator the places below the scope that an
entry matches, and for a child-scoped one the places where an entry hangs on the scope, or the
children that an entry matches if the scope cannot be marked. A search answers with its targets in
document order, as many as are wanted (`Search.answer_eq_orNoMatch`).

Whether a selector matches a place has nothing to do with the scope. So a plain search finds what
the search from the top of the tree finds, as far as it stands below the scope
(`Search.find_below_scope`).
-/

namespace MarkupQuery

namespace Css

/-! ### Matching as a relation -/

/-- The left part of a selector can be matched around a place: each combinator leads to an element
that its compound matches, from there to the next, and so on to the left end. -/
inductive Surrounded : List (Combinator × Compound) → Cursor → Prop where
  | alone (c : Cursor) : Surrounded [] c
  | step {via : Combinator} {k : Compound} {rest : List (Combinator × Compound)} {c d : Cursor}
      (hd : d ∈ c.related via) (hk : k.holds d = true) (around : Surrounded rest d) :
      Surrounded ((via, k) :: rest) c

theorem leftHolds_iff {left : List (Combinator × Compound)} {c : Cursor} :
    leftHolds left c = true ↔ Surrounded left c := by
  induction left generalizing c with
  | nil => exact iff_of_true rfl (.alone c)
  | cons step rest ih =>
      obtain ⟨via, k⟩ := step
      simp only [leftHolds, List.any_eq_true, Bool.and_eq_true, ih]
      constructor
      · rintro ⟨d, hd, hk, around⟩
        exact .step hd hk around
      · intro h
        cases h with
        | step hd hk around => exact ⟨_, hd, hk, around⟩

def Complex.Matches (e : Complex) (c : Cursor) : Prop :=
  e.subject.holds c = true ∧ Surrounded e.left c

theorem Complex.Matches.isElement {e : Complex} {c : Cursor} (h : e.Matches c) :
    c.isElement = true :=
  Compound.isElement_of_holds h.1

theorem Complex.selects_iff {e : Complex} {c : Cursor} : e.selects c = true ↔ e.Matches c := by
  rw [Complex.selects_eq, Bool.and_eq_true, Bool.and_eq_true, leftHolds_iff]
  exact ⟨fun h => ⟨h.1.2, h.2⟩, fun h => ⟨⟨h.isElement, h.1⟩, h.2⟩⟩

/-- What is selected is what some entry matches. -/
theorem SelectorList.selects_iff {entries : SelectorList} {c : Cursor} :
    entries.selects c = true ↔ ∃ e ∈ entries, e.Matches c := by
  simp only [SelectorList.selects, List.any_eq_true, Complex.selects_iff]

end Css

namespace Search

open Css

variable {entries : SelectorList} {scope : Cursor}

/-! ### Targets -/

/-- A place that a search with some entries is after. -/
inductive Target (entries : SelectorList) (scope : Cursor) : Bool → Cursor → Prop where
  | below {d : Cursor} (hbelow : scope.Below d) (hmatch : ∃ e ∈ entries, e.Matches d) :
      Target entries scope false d
  | hanging {d : Cursor} (hcan : canMark scope = true) (hang : Hangs entries scope d) :
      Target entries scope true d
  | child {d : Cursor} (hcan : canMark scope = false) (hchild : d.parent? = some scope)
      (hmatch : ∃ e ∈ entries, e.Matches d) : Target entries scope true d

def targets (entries : SelectorList) (childScoped : Bool) (scope : Cursor) : List Cursor :=
  if childScoped then
    if canMark scope then hanging entries scope else scope.children.filter entries.selects
  else scope.descendants.filter entries.selects

theorem mem_targets {childScoped : Bool} {d : Cursor} :
    d ∈ targets entries childScoped scope ↔ Target entries scope childScoped d := by
  rw [targets]
  cases childScoped with
  | false =>
      rw [if_neg Bool.false_ne_true, List.mem_filter, Cursor.mem_descendants,
        SelectorList.selects_iff]
      constructor
      · rintro ⟨hbelow, hmatch⟩
        exact .below hbelow hmatch
      · rintro (⟨hbelow, hmatch⟩ | _ | _)
        exact ⟨hbelow, hmatch⟩
  | true =>
      rw [if_pos rfl]
      cases hcan : canMark scope with
      | true =>
          rw [if_pos rfl, mem_hanging]
          constructor
          · exact .hanging hcan
          · rintro (_ | ⟨-, hang⟩ | ⟨hcan', -, -⟩)
            · exact hang
            · rw [hcan] at hcan'
              cases hcan'
      | false =>
          rw [if_neg Bool.false_ne_true, List.mem_filter, Cursor.mem_children,
            SelectorList.selects_iff]
          constructor
          · rintro ⟨hchild, hmatch⟩
            exact .child hcan hchild hmatch
          · rintro (_ | ⟨hcan', -⟩ | ⟨-, hchild, hmatch⟩)
            · rw [hcan] at hcan'
              cases hcan'
            · exact ⟨hchild, hmatch⟩

/-- Targets stand below the scope. -/
theorem Target.below_scope {childScoped : Bool} {d : Cursor}
    (h : Target entries scope childScoped d) : scope.Below d := by
  cases h with
  | below hbelow _ => exact hbelow
  | hanging _ hang => exact hang.below
  | child _ hchild _ => exact .child hchild

theorem targets_sorted (entries : SelectorList) (childScoped : Bool) (scope : Cursor) :
    (targets entries childScoped scope).Pairwise Cursor.Earlier := by
  rw [targets]
  split
  · split
    · exact hanging_sorted entries scope
    · exact scope.children_sorted.filter _
  · exact scope.descendants_sorted.filter _

/-! ### Answers -/

def sought (l : Locator) (want : Want) : Sought :=
  if l.childScoped then .childNodes else want.sought

/-- It makes no difference whether findings are cut before or after an empty list of them becomes an
error. -/
theorem map_cut_orNoMatch (css : String) (sought : Sought) (want : Want) (found : List Path) :
    (orNoMatch css sought found).map want.cut = orNoMatch css sought (want.cut found) := by
  cases want <;> cases found <;> rfl

/-- Whether a locator means the scope itself. -/
def MeansScope (l : Locator) : Prop := l.css = "" ∧ l.childScoped = false

theorem answer_of_meansScope {l : Locator} (h : MeansScope l) (scope : Cursor) (want : Want) :
    answer l scope want = .ok [scope.path] := by
  obtain ⟨hcss, hl⟩ := h
  have hself : l.isSelf = true := by rw [Locator.isSelf, hcss]; rfl
  rw [answer, if_neg (by simp [hl]), if_pos hself]

theorem isSelf_eq_false {l : Locator} (h : ¬ MeansScope l) (hl : l.childScoped = false) :
    l.isSelf = false := by
  rw [Locator.isSelf, Bool.eq_false_iff]
  intro hempty
  exact h ⟨String.isEmpty_iff.mp hempty, hl⟩

/-- A selector that cannot be read is reported wherever it is searched. -/
theorem answer_of_ofText?_eq_none {l : Locator} (h : ¬ MeansScope l)
    (hread : SelectorList.ofText? l.css = none) (scope : Cursor) (want : Want) :
    answer l scope want = .error (.badSelector l.css) := by
  rw [answer]
  cases hl : l.childScoped with
  | true =>
      rw [if_pos rfl, childAnswer, hread]
      rfl
  | false =>
      rw [if_neg Bool.false_ne_true, isSelf_eq_false h hl, below, hread]
      rfl

/-- The answer of a search: its targets in document order, as many as are wanted. -/
theorem answer_eq_orNoMatch {l : Locator} (h : ¬ MeansScope l)
    (hread : SelectorList.ofText? l.css = some entries) (scope : Cursor) (want : Want) :
    answer l scope want = orNoMatch l.css (sought l want)
      (want.cut ((targets entries l.childScoped scope).map Cursor.path)) := by
  rw [answer, sought, targets]
  cases hl : l.childScoped with
  | true =>
      rw [if_pos rfl, if_pos rfl, if_pos rfl, childAnswer, hread]
      simp only [map_cut_orNoMatch, select]
      split <;> rfl
  | false =>
      simp only [Bool.false_eq_true, if_false, isSelf_eq_false h hl]
      rw [below, hread]
      rfl

/-! ### Plain searches -/

/-- A plain search takes no id. -/
theorem answer_find_plain {l : Locator} (hl : l.childScoped = false) (scope : Cursor) (want : Want)
    (markers : Marker.Source) : (find l scope want markers).answer = answer l scope want := by
  rw [find, answer, hl]
  simp only [Bool.false_eq_true, if_false]
  split <;> rfl

theorem mem_targets_plain {d : Cursor} :
    d ∈ targets entries false scope ↔
      scope.Below d ∧ d.isElement = true ∧ ∃ e ∈ entries, e.Matches d := by
  rw [mem_targets]
  constructor
  · rintro (⟨hbelow, e, he, hmatch⟩ | _ | _)
    exact ⟨hbelow, hmatch.isElement, e, he, hmatch⟩
  · rintro ⟨hbelow, -, hmatch⟩
    exact .below hbelow hmatch

/-- The targets below a place are those below a place above it, as far as they stand below. -/
theorem targets_plain_eq_filter {above : Cursor} (h : scope = above ∨ above.Below scope) :
    targets entries false scope = (targets entries false above).filter (scope.Below ·) := by
  refine Cursor.eq_of_sorted (targets_sorted entries false scope)
    ((targets_sorted entries false above).filter _) ?_
  intro d
  rw [List.mem_filter, mem_targets_plain, mem_targets_plain, decide_eq_true_iff]
  constructor
  · rintro ⟨hbelow, hmatch⟩
    refine ⟨⟨?_, hmatch⟩, hbelow⟩
    rcases h with rfl | h
    · exact hbelow
    · exact h.trans hbelow
  · rintro ⟨⟨-, hmatch⟩, hbelow⟩
    exact ⟨hbelow, hmatch⟩

/-- What a plain search finds: the elements below the scope that an entry matches in the whole tree,
each of them once and in document order, and never the scope itself. They are what the search from
the top of the tree finds, as far as it stands below the scope. -/
theorem find_below_scope (l : Locator) (scope : Cursor) (markers markers' : Marker.Source)
    (entries : SelectorList) (hl : l.childScoped = false) (hcss : l.css ≠ "")
    (hread : SelectorList.ofText? l.css = some entries) :
    ∃ hits hitsFromTop : List Cursor,
      hits.Pairwise Cursor.Earlier ∧
      (∀ d, d ∈ hits ↔ scope.Below d ∧ d.isElement = true ∧ ∃ e ∈ entries, e.Matches d) ∧
      scope ∉ hits ∧
      (find l scope .all markers).answer =
        (if hits = [] then .error (.noMatch l.css .nodes) else .ok (hits.map Cursor.path)) ∧
      (∀ d ∈ hitsFromTop, scope.topmost.Below d) ∧
      (find l scope.topmost .all markers').answer =
        (if hitsFromTop = [] then .error (.noMatch l.css .nodes)
          else .ok (hitsFromTop.map Cursor.path)) ∧
      hits = hitsFromTop.filter (scope.Below ·) := by
  have hmeans : ¬ MeansScope l := fun h => hcss h.1
  have hanswer (c : Cursor) (m : Marker.Source) : (find l c .all m).answer =
      if targets entries false c = [] then .error (.noMatch l.css .nodes)
        else .ok ((targets entries false c).map Cursor.path) := by
    rw [answer_find_plain hl, answer_eq_orNoMatch hmeans hread, sought, hl]
    cases targets entries false c <;> rfl
  refine ⟨targets entries false scope, targets entries false scope.topmost,
    targets_sorted entries false scope, fun _ => mem_targets_plain, ?_, hanswer scope markers, ?_,
    hanswer scope.topmost markers', targets_plain_eq_filter scope.eq_topmost_or_below⟩
  · intro hmem
    exact Cursor.Below.not_self (mem_targets.mp hmem).below_scope
  · intro d hd
    exact (mem_targets.mp hd).below_scope

def secondItem : Cursor :=
  ⟨.node (.element (.html "li") []) [.leaf (.element (.html "b") [])],
    ⟨itemList.label, [.leaf (.element (.html "li") [])], []⟩ :: itemList.above⟩

def boldInDivision : Css.Complex :=
  ⟨⟨.named "b", []⟩, [(.descendant, ⟨.named "div", []⟩)]⟩

theorem writable_boldInDivision : boldInDivision.Writable := by
  refine ⟨Compound.writable_named (by decide), ?_⟩
  intro step hstep
  rw [List.mem_singleton.mp hstep]
  exact Compound.writable_named (by decide)

/-- In the second item the selector `li, div b` finds the bold word alone. From the top it finds the
items too, and the division that stands around everything is only looked at. -/
theorem find_below_secondItem :
    (find ⟨"li, div b", none, false⟩ secondItem .all .counted).answer = .ok [[0, 1, 0]] ∧
      (find ⟨"li, div b", none, false⟩ secondItem.topmost .all .counted).answer =
        .ok [[0, 0], [0, 1], [0, 1, 0]] := by
  have hread : SelectorList.ofText? "li, div b" = some [anItem, boldInDivision] := by
    have htext : ", ".intercalate ([anItem, boldInDivision].map Complex.text) = "li, div b" := by
      decide
    rw [← htext]
    exact SelectorList.ofText?_text (by simp) (by simp [writable_anItem, writable_boldInDivision])
  have hfound {scope : Cursor} {hits : List Cursor} (hsorted : hits.Pairwise Cursor.Earlier)
      (hmem : ∀ d, d ∈ hits ↔
        scope.Below d ∧ d.isElement = true ∧ ∃ e ∈ [anItem, boldInDivision], e.Matches d) :
      hits = targets [anItem, boldInDivision] false scope :=
    Cursor.eq_of_sorted hsorted (targets_sorted _ _ _) fun d => by rw [hmem, mem_targets_plain]
  constructor
  · obtain ⟨hits, -, hsorted, hmem, -, hfind, -⟩ :=
      find_below_scope ⟨"li, div b", none, false⟩ secondItem .counted .counted
        [anItem, boldInDivision] rfl (by decide) hread
    rw [hfind, hfound hsorted hmem]
    decide +kernel
  · obtain ⟨hits, -, hsorted, hmem, -, hfind, -⟩ :=
      find_below_scope ⟨"li, div b", none, false⟩ secondItem.topmost .counted .counted
        [anItem, boldInDivision] rfl (by decide) hread
    rw [hfind, hfound hsorted hmem]
    decide +kernel

end Search

end MarkupQuery
