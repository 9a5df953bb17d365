import MarkupQuery.Proofs.Tree.Place
import MarkupQuery.Search.Basic

/-!
# The scope after a search

A child-scoped search writes a mark into the `class` attribute of its scope and takes it away again.
Whatever the attribute was before, absent, blank or a list of classes, the attributes are the same
list afterwards, in the same order: a mark that found no attribute stands at the end, where it is
removed, and one that found an attribute is overwritten in its place. So every search hands back the
scope as it got it (`Search.scope_find`).
-/

namespace MarkupQuery

namespace Attributes

theorem get?_cons_self (name : AttributeName) (v : String) (as : Attributes) :
    get? ((name, v) :: as) name = some v := List.lookup_cons_self

theorem get?_cons_ne {n name : AttributeName} (h : n ≠ name) (v : String) (as : Attributes) :
    get? ((n, v) :: as) name = get? as name := by
  have h' : (name == n) = false := by simpa using fun e => h e.symm
  rw [get?, List.lookup_cons, h']
  rfl

/-- Of two values given to an attribute the second one counts. -/
theorem set_set (name : AttributeName) (v w : String) (as : Attributes) :
    set name w (set name v as) = set name w as := by
  induction as with
  | nil => simp [set]
  | cons a rest ih =>
      obtain ⟨n, u⟩ := a
      by_cases h : n = name
      · simp [set, h]
      · simp [set, h, ih]

/-- Giving an attribute the value that it has changes nothing. -/
theorem set_of_get?_eq_some {name : AttributeName} {v : String} {as : Attributes}
    (h : get? as name = some v) : set name v as = as := by
  induction as with
  | nil => cases h
  | cons a rest ih =>
      obtain ⟨n, u⟩ := a
      by_cases hn : n = name
      · subst hn
        rw [get?_cons_self] at h
        obtain rfl := Option.some.inj h
        simp [set]
      · rw [get?_cons_ne hn] at h
        simp [set, hn, ih h]

/-- A new attribute that is removed again leaves nothing behind. -/
theorem erase_set_of_get?_eq_none {name : AttributeName} {as : Attributes}
    (h : get? as name = none) (v : String) : erase name (set name v as) = as := by
  induction as with
  | nil => simp [set, erase]
  | cons a rest ih =>
      obtain ⟨n, u⟩ := a
      by_cases hn : n = name
      · subst hn
        rw [get?_cons_self] at h
        cases h
      · rw [get?_cons_ne hn] at h
        have ih' := ih h
        rw [erase] at ih' ⊢
        rw [set, if_neg hn, List.filter_cons_of_pos (by simpa using hn), ih']

/-- Marked and restored, attributes are what they were. -/
theorem restoreClasses_mark (m : String) (as : Attributes) :
    restoreClasses (as.get? .classes) (mark m as) = as := by
  cases h : as.get? .classes with
  | none => exact erase_set_of_get?_eq_none h _
  | some classes =>
      rw [restoreClasses, mark, set_set]
      exact set_of_get?_eq_some h

end Attributes

/-- Marked and restored, a scope is what it was, with the tree around it. -/
theorem Cursor.restoreClasses_mark (m : String) (c : Cursor) :
    (c.mark m).restoreClasses c.classes? = c := by
  obtain ⟨⟨l, cs⟩, above⟩ := c
  cases l with
  | element n as =>
      simp only [Cursor.mark, Cursor.restoreClasses, Cursor.classes?, Cursor.mapLabel,
        Tree.mapLabel, Node.mapAttributes, Cursor.label, Tree.label, Node.attributes]
      rw [Attributes.restoreClasses_mark]
  | _ => rfl

namespace Search

theorem scope_belowChildren (css : String) (scope : Cursor) (markers : Marker.Source) :
    (belowChildren css scope markers).scope = scope := by
  unfold belowChildren
  split
  · rfl
  · split
    · exact scope.restoreClasses_mark _
    · rfl

/-- A search hands back the scope as it got it, whatever it answers. -/
theorem scope_find (l : Locator) (scope : Cursor) (want : Want) (markers : Marker.Source) :
    (find l scope want markers).scope = scope := by
  unfold find
  split
  · exact scope_belowChildren l.css scope markers
  · split
    · rfl
    · rfl

end Search

end MarkupQuery
