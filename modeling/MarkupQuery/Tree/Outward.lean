import MarkupQuery.Tree.Cursor

/-!
# Elements outward from a place

From an element the ways that selectors take lead to the elements above it and to those in front of
it under the same parent. The places that can be reached so are the same for siblings, but for the
siblings themselves: an element in front has the same parent, and in front of it stands what is left
of the list.
-/

namespace MarkupQuery.Cursor

def isElement (c : Cursor) : Bool := c.label.isElement

/-- The element one step up; a parent of another kind is none. -/
def parentElement? (c : Cursor) : Option Cursor :=
  c.parent?.filter isElement

/-- The elements above, nearest first, up to the first node that is none. -/
def ancestorElements (c : Cursor) : List Cursor :=
  c.ancestors.takeWhile isElement

def precedingElements (c : Cursor) : List Cursor :=
  c.precedingSiblings.filter isElement

/-! ### Elements in front -/

theorem parent?_of_mem_leftOf {l : Node} {above : List Crumb} {d : Cursor}
    {before after : List Tree} (h : d ∈ leftOf l above before after) :
    d.parent? = some ⟨.node l (before.reverse ++ after), above⟩ := by
  induction before generalizing after with
  | nil => simp [leftOf] at h
  | cons t before ih =>
    rcases List.mem_cons.1 h with rfl | h
    · simp [parent?]
    · simpa using ih h

theorem parent?_of_mem_precedingSiblings {c d : Cursor} (h : d ∈ c.precedingSiblings) :
    d.parent? = c.parent? := by
  obtain ⟨t, _ | ⟨⟨l, before, after⟩, above⟩⟩ := c
  · simp [precedingSiblings] at h
  · exact parent?_of_mem_leftOf h

/-- An element in front has the same parent. -/
theorem parentElement?_of_mem_precedingElements {c d : Cursor} (h : d ∈ c.precedingElements) :
    d.parentElement? = c.parentElement? := by
  rw [parentElement?, parentElement?,
    parent?_of_mem_precedingSiblings (List.mem_filter.1 h).1]

theorem precedingElements_of_leftOf {l : Node} {above : List Crumb} {d : Cursor} {ds : List Cursor}
    {before after : List Tree} (h : (leftOf l above before after).filter isElement = d :: ds) :
    d.precedingElements = ds := by
  induction before generalizing after with
  | nil => simp [leftOf] at h
  | cons t before ih =>
    rw [leftOf, List.filter_cons] at h
    split at h
    · obtain ⟨rfl, rfl⟩ := List.cons.inj h
      rfl
    · exact ih h

/-- In front of the nearest element in front stand the others. -/
theorem precedingElements_of_eq_cons {c d : Cursor} {ds : List Cursor}
    (h : c.precedingElements = d :: ds) : d.precedingElements = ds := by
  obtain ⟨t, _ | ⟨⟨l, before, after⟩, above⟩⟩ := c
  · simp [precedingElements, precedingSiblings] at h
  · exact precedingElements_of_leftOf h

/-- In front of an element in front stands what comes after it in the list. -/
theorem precedingElements_of_eq_append {c d : Cursor} {xs ys : List Cursor}
    (h : c.precedingElements = xs ++ d :: ys) : d.precedingElements = ys := by
  induction xs generalizing c with
  | nil => exact precedingElements_of_eq_cons h
  | cons x xs ih => exact ih (precedingElements_of_eq_cons h)

theorem mem_precedingElements_trans {c d e : Cursor} (h : d ∈ c.precedingElements)
    (h' : e ∈ d.precedingElements) : e ∈ c.precedingElements := by
  obtain ⟨xs, ys, hxy⟩ := List.append_of_mem h
  rw [precedingElements_of_eq_append hxy] at h'
  simp [hxy, h']

/-! ### Elements above -/

theorem ancestors_eq (c : Cursor) :
    c.ancestors = match c.parent? with
      | none => []
      | some p => p :: p.ancestors := by
  obtain ⟨t, _ | ⟨⟨l, before, after⟩, above⟩⟩ := c <;> rfl

/-- The elements above are the parent element and the elements above it. -/
theorem ancestorElements_eq (c : Cursor) :
    c.ancestorElements = match c.parentElement? with
      | none => []
      | some p => p :: p.ancestorElements := by
  rw [ancestorElements, ancestors_eq, parentElement?]
  cases c.parent? with
  | none => rfl
  | some p => cases h : p.isElement <;> simp [Option.filter, h, ancestorElements]

/-- What stands above an element above is what comes after it in the list. -/
theorem ancestorElements_of_eq_append {c d : Cursor} {xs ys : List Cursor}
    (h : c.ancestorElements = xs ++ d :: ys) : d.ancestorElements = ys := by
  induction xs generalizing c with
  | nil =>
    rw [ancestorElements_eq] at h
    cases hp : c.parentElement? with
    | none => simp [hp] at h
    | some p =>
      simp only [hp, List.nil_append] at h
      obtain ⟨rfl, rfl⟩ := List.cons.inj h
      rfl
  | cons x xs ih =>
    rw [ancestorElements_eq] at h
    cases hp : c.parentElement? with
    | none => simp [hp] at h
    | some p =>
      simp only [hp, List.cons_append] at h
      exact ih (List.cons.inj h).2

/-! ### Outward -/

/-- A place that can be reached from an element by going up and to elements in front. -/
inductive Outward : Cursor → Cursor → Prop where
  | refl (c : Cursor) : Outward c c
  | before {c d e : Cursor} (h : d ∈ c.precedingElements) (out : Outward d e) : Outward c e
  | up {c p e : Cursor} (h : c.parentElement? = some p) (out : Outward p e) : Outward c e

namespace Outward

theorem trans {c d e : Cursor} (h : Outward c d) (h' : Outward d e) : Outward c e := by
  induction h with
  | refl => exact h'
  | before hd _ ih => exact before hd (ih h')
  | up hp _ ih => exact up hp (ih h')

theorem of_mem_precedingElements {c d : Cursor} (h : d ∈ c.precedingElements) : Outward c d :=
  before h (refl d)

/-- What stands above a place outward stands above the place itself. -/
theorem mem_ancestorElements {c d a : Cursor} (h : Outward c d) (ha : a ∈ d.ancestorElements) :
    a ∈ c.ancestorElements := by
  induction h with
  | refl => exact ha
  | before hd _ ih =>
    have h' := ih ha
    rwa [ancestorElements_eq, parentElement?_of_mem_precedingElements hd,
      ← ancestorElements_eq] at h'
  | up hp _ ih =>
    rw [ancestorElements_eq, hp]
    exact List.mem_cons_of_mem _ (ih ha)

theorem of_eq_append {c d : Cursor} {xs ys : List Cursor}
    (h : c.ancestorElements = xs ++ d :: ys) : Outward c d := by
  induction xs generalizing c with
  | nil =>
    rw [ancestorElements_eq] at h
    cases hp : c.parentElement? with
    | none => simp [hp] at h
    | some p =>
      simp only [hp, List.nil_append] at h
      obtain ⟨rfl, -⟩ := List.cons.inj h
      exact up hp (refl p)
  | cons x xs ih =>
    rw [ancestorElements_eq] at h
    cases hp : c.parentElement? with
    | none => simp [hp] at h
    | some p =>
      simp only [hp, List.cons_append] at h
      exact up hp (ih (List.cons.inj h).2)

theorem of_mem_ancestorElements {c a : Cursor} (h : a ∈ c.ancestorElements) : Outward c a :=
  let ⟨_, _, hxy⟩ := List.append_of_mem h
  of_eq_append hxy

/-- What stands in front of a place outward stands in front of the place itself, or outward from its
parent. -/
theorem mem_precedingElements {c d e : Cursor} (h : Outward c d) (he : e ∈ d.precedingElements) :
    e ∈ c.precedingElements ∨ ∃ p, c.parentElement? = some p ∧ Outward p e := by
  induction h with
  | refl => exact .inl he
  | before hd _ ih =>
    rcases ih he with h | ⟨p, hp, out⟩
    · exact .inl (mem_precedingElements_trans hd h)
    · exact .inr ⟨p, parentElement?_of_mem_precedingElements hd ▸ hp, out⟩
  | up hp out _ => exact .inr ⟨_, hp, out.trans (of_mem_precedingElements he)⟩

end Outward

end MarkupQuery.Cursor
