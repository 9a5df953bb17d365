import MarkupQuery.Proofs.Search.Counted

/-!
# When a child-scoped search finds children only

A child-scoped search hangs its selector on the children of the scope, and that alone does not keep
its findings there. An entry with a combinator that leads downward finds nodes deeper below the
scope, and any other element that happens to carry the class of the mark, inside or outside the
scope, brings its own descendants in. Nothing else does: with ids that are counted, all findings are
children of the scope exactly if neither of the two happens.
-/

namespace MarkupQuery

open Css

namespace Search

/-- The class that a counting source marks a scope with. -/
def countedMark (n : UInt64) : String := Marker.classStem ++ toString n.toNat

theorem isPlain_countedMark (n : UInt64) : IsPlain (countedMark n) :=
  isPlain_classStem_append n.toNat

variable {scope : Cursor} {mark : String} {entries : SelectorList}

/-- The paths that a child-scoped search finds are those that its selection yields, for whatever
number of findings. -/
theorem forall_find_iff {l : Locator} {markers : Marker.Source} {found : List Path}
    (hl : l.childScoped = true)
    (hanswer : (belowChildren l.css scope markers).answer = orNoMatch l.css .childNodes found)
    (P : Path → Prop) :
    (∀ want paths, (find l scope want markers).answer = .ok paths → ∀ p ∈ paths, P p) ↔
      ∀ p ∈ found, P p := by
  simp only [find, hl, if_true, hanswer]
  constructor
  · intro h p hp
    refine h .all found ?_ p hp
    have hne : found.isEmpty = false := by
      cases found with
      | nil => cases hp
      | cons q found => rfl
    rw [orNoMatch, hne]
    rfl
  · intro h want paths hpaths p hp
    cases hfound : orNoMatch l.css .childNodes found with
    | error e =>
        rw [hfound] at hpaths
        cases hpaths
    | ok found' =>
        rw [hfound] at hpaths
        cases hpaths
        obtain rfl := eq_of_orNoMatch hfound
        exact h p (mem_of_mem_cut hp)

/-- A place of the marked tree stands where a child of the scope stands exactly if it is a child of
the marked scope. -/
theorem exists_child_iff {d : Cursor}
    (hd : d.top = (scope.mark mark).top) :
    (∃ c : Cursor, c.parent? = some scope ∧ c.path = d.path) ↔
      d.parent? = some (scope.mark mark) := by
  have hrow := scope.children_focus_mark mark
  constructor
  · rintro ⟨c, hc, hpath⟩
    -- the twin of the child has the path of the place, and so it is the place
    obtain ⟨c', twin⟩ := Cursor.Twin.exists_of_below hrow.symm (.child hc)
    have hpath' : c'.path = d.path :=
      (twin.symm.path_eq (scope.path_mark mark)).trans hpath
    obtain rfl : c' = d := Cursor.eq_of_path_eq (twin.symm.stands_below.top.trans hd.symm) hpath'
    exact twin.parent?_of_child hc
  · intro hp
    obtain ⟨c, twin⟩ := Cursor.Twin.exists_of_below hrow (.child hp)
    exact ⟨c, twin.parent?_of_child hp, (twin.path_eq (scope.path_mark mark)).symm⟩

/-- An element other than the scope that carries the class of its mark while the scope is
marked. -/
def Rival (mark : String) (scope s : Cursor) : Prop :=
  s.top = (scope.mark mark).top ∧ s ≠ scope.mark mark ∧ hasClass mark s = true

/-- The places that a marked search finds. -/
theorem mem_select_around {p : Path} :
    p ∈ select (entries.map (·.anchor .child (.ofClass mark))) (aroundScope (scope.mark mark)) ↔
      ∃ d ∈ aroundScope (scope.mark mark),
        (∃ s, hasClass mark s = true ∧ Hangs entries s d) ∧ d.path = p := by
  simp only [select, List.mem_map, List.mem_filter, selects_anchored_iff]
  constructor
  · rintro ⟨d, ⟨hd, hs⟩, rfl⟩
    exact ⟨d, hd, hs, rfl⟩
  · rintro ⟨d, hd, hs, rfl⟩
    exact ⟨d, ⟨hd, hs⟩, rfl⟩

/-- What hangs on the marked scope hangs on the scope, at a twin. -/
theorem hangsOn_mark_iff (mark : String) (hel : scope.isElement = true) (e : Css.Complex) :
    (∃ d, e.HangsOn (scope.mark mark) d) ↔ ∃ d, e.HangsOn scope d := by
  have hel' : (scope.mark mark).isElement = true := by rw [Cursor.isElement_mark, hel]
  have hrow := scope.children_focus_mark mark
  constructor
  · rintro ⟨d, hang⟩
    obtain ⟨d', twin⟩ := Cursor.Twin.exists_of_below hrow hang.below
    exact ⟨d', (twin.hangsOn_iff hel' hel e).mp hang⟩
  · rintro ⟨d, hang⟩
    obtain ⟨d', twin⟩ := Cursor.Twin.exists_of_below hrow.symm hang.below
    exact ⟨d', (twin.hangsOn_iff hel hel' e).mp hang⟩

/-- A marked search finds children of the scope only if everything that hangs on a carrier of the
class is a child of the marked scope. -/
theorem select_around_children_iff :
    (∀ p ∈ select (entries.map (·.anchor .child (.ofClass mark))) (aroundScope (scope.mark mark)),
        ∃ c : Cursor, c.parent? = some scope ∧ c.path = p) ↔
      ∀ s, hasClass mark s = true → ∀ d ∈ aroundScope (scope.mark mark), Hangs entries s d →
        d.parent? = some (scope.mark mark) := by
  constructor
  · intro h s hclass d hd hang
    refine (exists_child_iff (top_of_mem_aroundScope hd)).mp (h d.path ?_)
    exact mem_select_around.mpr ⟨d, hd, ⟨s, hclass, hang⟩, rfl⟩
  · intro h p hmem
    obtain ⟨d, hd, ⟨s, hclass, hang⟩, rfl⟩ := mem_select_around.mp hmem
    exact (exists_child_iff (top_of_mem_aroundScope hd)).mpr (h s hclass d hd hang)

/-- What hangs on the marked scope is a child of it only if every entry that hangs on the scope is
flat. -/
theorem hangs_mark_children_iff (hel : scope.isElement = true)
    (hp : scope.parent?.isSome = true) :
    (∀ d ∈ aroundScope (scope.mark mark), Hangs entries (scope.mark mark) d →
        d.parent? = some (scope.mark mark)) ↔
      ∀ e ∈ entries, e.isFlat = false → ∀ d, ¬ e.HangsOn scope d := by
  constructor
  · intro h e he hflat d hang
    obtain ⟨d', hang'⟩ := (hangsOn_mark_iff mark hel e).mpr ⟨d, hang⟩
    have hmem := mem_aroundScope (by rw [parent?_isSome_mark, hp]) hang'.below
    have hchild := hang'.parent?_iff_isFlat.mp (h d' hmem ⟨e, he, hang'⟩)
    rw [hflat] at hchild
    cases hchild
  · rintro h d - ⟨e, he, hang⟩
    refine hang.parent?_iff_isFlat.mpr ?_
    by_contra hnot
    obtain ⟨d', hang'⟩ := (hangsOn_mark_iff mark hel e).mp ⟨d, hang⟩
    exact h e he (by simpa using hnot) d' hang'

/-- With counted ids, a child-scoped search of an element finds children of it only, exactly if the
element has no parent, or no entry with a combinator that leads downward hangs on it and nothing
beyond its children hangs on another carrier of the class of its mark. -/
theorem finds_children_iff (l : Locator) (scope : Cursor) (n : UInt64) (taken : List String)
    (entries : SelectorList) (hl : l.childScoped = true)
    (hread : SelectorList.ofText? l.css = some entries) (hel : scope.isElement = true) :
    (∀ want paths, (find l scope want ⟨.counted n, taken⟩).answer = .ok paths →
        ∀ p ∈ paths, ∃ c : Cursor, c.parent? = some scope ∧ c.path = p) ↔
      scope.parent? = none ∨
        ((∀ e ∈ entries, e.isFlat = false → ∀ d, ¬ e.HangsOn scope d) ∧
          ∀ s, Rival (countedMark n) scope s → ∀ d ∈ aroundScope (scope.mark (countedMark n)),
            Hangs entries s d → d.parent? = some (scope.mark (countedMark n))) := by
  have hplain := isPlain_countedMark n
  cases hp : scope.parent? with
  | none =>
      -- without a parent the selector picks among the children
      have hanswer : (belowChildren l.css scope ⟨.counted n, taken⟩).answer =
          orNoMatch l.css .childNodes (select entries scope.children) := by
        simp [belowChildren, hread, canMark, hp]
      rw [forall_find_iff hl hanswer]
      refine iff_of_true ?_ (Or.inl rfl)
      intro p hmem
      obtain ⟨c, hc, rfl⟩ := List.mem_map.mp hmem
      exact ⟨c, Cursor.mem_children.mp (List.mem_filter.mp hc).1, rfl⟩
  | some parent =>
      have hsome : scope.parent?.isSome = true := by
        rw [hp]
        rfl
      have hanswer : (belowChildren l.css scope ⟨.counted n, taken⟩).answer =
          orNoMatch l.css .childNodes (select
            (entries.map (·.anchor .child (.ofClass (countedMark n))))
            (aroundScope (scope.mark (countedMark n)))) :=
        answer_marked hread hel hsome hplain
      rw [forall_find_iff hl hanswer, select_around_children_iff, or_iff_right (by simp),
        ← hangs_mark_children_iff hel hsome]
      constructor
      · intro h
        exact ⟨h _ (hasClass_mark hplain hel), fun s hs => h s hs.2.2⟩
      · rintro ⟨hscope, hrival⟩ s hclass d hd hang
        by_cases hs : s = scope.mark (countedMark n)
        · subst hs
          exact hscope d hd hang
        · have htop : s.top = (scope.mark (countedMark n)).top := by
            rw [← hang.below.top, top_of_mem_aroundScope hd]
          exact hrival s ⟨htop, hs, hclass⟩ d hd hang

/-- A flat selector that is searched in a tree without the class of the mark finds children only. -/
theorem finds_children_items :
    SelectorList.ofText? "li" = some [anItem] ∧
      ∀ want paths, (find ⟨"li", none, true⟩ itemList want ⟨.counted 0, []⟩).answer = .ok paths →
        ∀ p ∈ paths, ∃ c : Cursor, c.parent? = some itemList ∧ c.path = p := by
  have hread : SelectorList.ofText? "li" = some [anItem] := by
    have htext : anItem.text = "li" := by decide
    rw [← htext]
    exact Complex.ofText?_text writable_anItem
  refine ⟨hread, ?_⟩
  refine (finds_children_iff ⟨"li", none, true⟩ itemList 0 [] [anItem] rfl hread rfl).mpr ?_
  refine Or.inr ?_
  have hfree : itemList.top.FreeOf (countedMark 0) := by decide
  constructor
  · intro e he hflat
    rw [List.mem_singleton.mp he] at hflat
    cases hflat
  · rintro s ⟨htop, hne, hclass⟩
    exact absurd (eq_mark_of_hasClass hfree htop hclass) hne

/-- A child-scoped search does not keep to the children of its scope: behind `>` the selector `li b`
finds the word inside an item. -/
theorem find_beyond_children :
    ¬ ∀ (l : Locator) (scope : Cursor) (n : UInt64) (taken : List String) (entries : SelectorList),
      l.childScoped = true → SelectorList.ofText? l.css = some entries → scope.isElement = true →
      ∀ want paths, (find l scope want ⟨.counted n, taken⟩).answer = .ok paths →
        ∀ p ∈ paths, ∃ c : Cursor, c.parent? = some scope ∧ c.path = p := by
  intro h
  have hread : SelectorList.ofText? "li b" = some [boldInItem] := by
    have htext : boldInItem.text = "li b" := by decide
    rw [← htext]
    exact Complex.ofText?_text writable_boldInItem
  have hanswer : (belowChildren "li b" itemList ⟨.counted 0, []⟩).answer = _ :=
    answer_belowChildren hread rfl rfl (by decide) (by decide)
  have hchild := (forall_find_iff (l := ⟨"li b", none, true⟩) rfl hanswer _).mp
    (h ⟨"li b", none, true⟩ itemList 0 [] [boldInItem] rfl hread rfl)
  have hfound : [0, 1, 0] ∈ (hanging [boldInItem] itemList).map Cursor.path := by decide +kernel
  obtain ⟨c, hc, hpath⟩ := hchild _ hfound
  have hlength := congrArg List.length hpath
  rw [Cursor.path_of_parent? hc, List.length_append] at hlength
  exact absurd hlength (show ¬ itemList.path.length + 1 = 3 by decide)

end Search

end MarkupQuery
