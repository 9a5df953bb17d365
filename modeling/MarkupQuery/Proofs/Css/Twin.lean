import Mathlib.Data.List.Forall2
import MarkupQuery.Proofs.Css.Hanging

/-!
# Twins

Two elements with the same children, each in a tree of its own, have the same places below them.
Twins are such places: reached by the same steps from `s` in one tree and from `s'` in the other.
What stands at `s` and around it may differ.

A compound looks at the element, its siblings and its children, and at the parent only to see
whether it is the document; so it matches a place below `s` if it matches the twin
(`Twin.holds_eq`). Combinators lead from twins to twins as long as they stay below
(`Twin.related`). A selector that hangs on `s` stays below `s`, and so it hangs on `s'` at the twin
(`Twin.hangsOn_iff`).
-/

namespace MarkupQuery

namespace Cursor

/-- The place of a tree in the row of children of a cursor, between those in front, nearest first,
and those behind. -/
def down (p : Cursor) (before : List Tree) (t : Tree) (after : List Tree) : Cursor :=
  ⟨t, ⟨p.label, before, after⟩ :: p.above⟩

theorem parent?_down {p : Cursor} {before after : List Tree} {t : Tree}
    (h : p.focus.children = before.reverse ++ t :: after) :
    (p.down before t after).parent? = some p := by
  obtain ⟨⟨l, cs⟩, above⟩ := p
  have hcs : cs = before.reverse ++ t :: after := h
  subst hcs
  rfl

/-- Places reached by the same steps from two elements with the same children. -/
inductive Twin (s s' : Cursor) : Cursor → Cursor → Prop where
  | child {before after : List Tree} {t : Tree}
      (row : s.focus.children = before.reverse ++ t :: after)
      (row' : s'.focus.children = before.reverse ++ t :: after) :
      Twin s s' (s.down before t after) (s'.down before t after)
  | step {p p' : Cursor} (twin : Twin s s' p p') {before after : List Tree} {t : Tree}
      (row : p.focus.children = before.reverse ++ t :: after) :
      Twin s s' (p.down before t after) (p'.down before t after)

/-- What a compound can see from a place. -/
structure Alike (c c' : Cursor) : Prop where
  focus : c.focus = c'.focus
  before : c.before = c'.before
  after : c.after = c'.after
  isRoot : c.isRoot = c'.isRoot

end Cursor

namespace Css

open Cursor (Alike)

variable {c c' : Cursor}

theorem Alike.label (h : Alike c c') : c.label = c'.label := by
  rw [Cursor.label, Cursor.label, h.focus]

theorem Alike.position (h : Alike c c') (k : Counting) : c.position k = c'.position k := by
  simp only [Cursor.position, Cursor.counted, h.before, h.after, Alike.label h]

theorem Alike.pseudo (h : Alike c c') (p : PseudoClass) : p.holds c = p.holds c' := by
  cases p <;> simp only [PseudoClass.holds, Alike.position h, h.isRoot, Cursor.isEmpty,
    Cursor.isLink, h.focus, Alike.label h]

theorem Alike.simple (h : Alike c c') (s : Simple) : s.holds c = s.holds c' := by
  cases s with
  | id n => simp only [Simple.holds, Alike.label h]
  | hasClass n => simp only [Simple.holds, hasClass, Alike.label h]
  | attr t => simp only [Simple.holds, Cursor.isHtml, Alike.label h]
  | pseudo p => simp only [Simple.holds, Alike.pseudo h]
  | position k s => simp only [Simple.holds, Alike.position h]
  | notType t => simp only [Simple.holds, TypeTest.holdsAt, Alike.label h]
  | not s =>
      have ih := Alike.simple h s
      simp only [Simple.holds, ih]
  | host k => simp only [Simple.holds]

/-- A compound cannot tell places apart that look alike. -/
theorem Alike.compound (h : Alike c c') (k : Compound) : k.holds c = k.holds c' := by
  have hall : (k.tests.all fun s => s.holds c) = k.tests.all fun s => s.holds c' := by
    congr 1
    funext s
    exact Alike.simple h s
  rw [Compound.holds, Compound.holds, hall, TypeTest.holdsAt, TypeTest.holdsAt, Alike.label h]

end Css

namespace Cursor.Twin

variable {s s' c c' : Cursor}

theorem focus (h : Twin s s' c c') : c.focus = c'.focus := by
  cases h <;> rfl

theorem symm (h : Twin s s' c c') : Twin s' s c' c := by
  induction h with
  | child row row' => exact child row' row
  | step twin row ih => exact step ih (by rw [← twin.focus]; exact row)

theorem stands_below (h : Twin s s' c c') : s.Below c := by
  induction h with
  | child row _ => exact .child (parent?_down row)
  | step _ row ih => exact .down (parent?_down row) ih

/-- The same steps lead from the two elements to twins. -/
theorem exists_path_eq_append (h : Twin s s' c c') :
    ∃ q, c.path = s.path ++ q ∧ c'.path = s'.path ++ q := by
  induction h with
  | @child before after t row row' =>
      exact ⟨[before.length], path_of_parent? (parent?_down row), path_of_parent? (parent?_down row')⟩
  | @step p p' twin before after t row ih =>
      obtain ⟨q, hq, hq'⟩ := ih
      have hc := path_of_parent? (parent?_down row)
      have hc' := path_of_parent? (parent?_down (twin.focus ▸ row))
      refine ⟨q ++ [before.length], ?_, ?_⟩
      · rw [hc, hq, List.append_assoc]
        rfl
      · rw [hc', hq', List.append_assoc]
        rfl

theorem path_eq (hs : s.path = s'.path) (h : Twin s s' c c') : c.path = c'.path := by
  obtain ⟨q, hq, hq'⟩ := h.exists_path_eq_append
  rw [hq, hq', hs]

/-- Twins look alike if neither of the two elements is a document. -/
theorem alike (hs : s.isElement = true) (hs' : s'.isElement = true) (h : Twin s s' c c') :
    Alike c c' := by
  have notDocument {e : Cursor} (he : e.isElement = true) : e.label.isDocument = false := by
    rw [isElement] at he
    cases hl : e.label <;> simp_all [Node.isElement, Node.isDocument]
  cases h with
  | child row row' =>
      refine ⟨rfl, rfl, rfl, ?_⟩
      rw [isRoot, isRoot, parent?_down row, parent?_down row']
      simp [notDocument hs, notDocument hs']
  | step twin row =>
      refine ⟨rfl, rfl, rfl, ?_⟩
      rw [isRoot, isRoot, parent?_down row, parent?_down (twin.focus ▸ row)]
      simp [label, twin.focus]

/-- A compound matches a place if it matches its twin. -/
theorem holds_eq (hs : s.isElement = true) (hs' : s'.isElement = true) (h : Twin s s' c c')
    (k : Css.Compound) : k.holds c = k.holds c' :=
  Css.Alike.compound (h.alike hs hs') k

/-- The siblings in front of twins are twins, one by one. -/
theorem forall₂_leftOf (p p' : Cursor) (row : List Tree)
    (hrow : ∀ b t a, row = b.reverse ++ t :: a → Twin s s' (p.down b t a) (p'.down b t a)) :
    ∀ before after : List Tree, row = before.reverse ++ after →
      List.Forall₂ (Twin s s') (leftOf p.label p.above before after)
        (leftOf p'.label p'.above before after)
  | [], after, _ => List.Forall₂.nil
  | t :: before, after, h => by
      have h' : row = before.reverse ++ t :: after := by rw [h]; simp
      exact List.Forall₂.cons (hrow before t after h')
        (forall₂_leftOf p p' row hrow before (t :: after) h')

theorem forall₂_precedingElements (h : Twin s s' c c') :
    List.Forall₂ (Twin s s') c.precedingElements c'.precedingElements := by
  have siblings : List.Forall₂ (Twin s s') c.precedingSiblings c'.precedingSiblings := by
    cases h with
    | @child before after t row row' =>
        refine forall₂_leftOf s s' s.focus.children ?_ before (t :: after) row
        intro b u a hb
        exact child hb (by rw [row', ← row, hb])
    | @step p p' twin before after t row =>
        refine forall₂_leftOf p p' p.focus.children ?_ before (t :: after) row
        intro b u a hb
        exact step twin hb
  refine List.rel_filter ?_ siblings
  intro d d' hd
  simp only [isElement, label, hd.focus]

mutual

theorem forall₂_cursors : ∀ {above above' : List Crumb} (t : Tree),
    Twin s s' ⟨t, above⟩ ⟨t, above'⟩ →
      List.Forall₂ (Twin s s') (t.cursors above) (t.cursors above')
  | above, above', .node l cs, h => by
      rw [Tree.cursors, Tree.cursors]
      refine List.Forall₂.cons h
        (forall₂_cursorsOfAll ⟨.node l cs, above⟩ ⟨.node l cs, above'⟩ cs ?_ [] cs rfl)
      intro b t a hb
      exact step h hb

theorem forall₂_cursorsOfAll (p p' : Cursor) (row : List Tree)
    (hrow : ∀ b t a, row = b.reverse ++ t :: a → Twin s s' (p.down b t a) (p'.down b t a)) :
    ∀ before after : List Tree, row = before.reverse ++ after →
      List.Forall₂ (Twin s s') (Tree.cursorsOfAll p.label p.above before after)
        (Tree.cursorsOfAll p'.label p'.above before after)
  | before, [], _ => by
      rw [Tree.cursorsOfAll, Tree.cursorsOfAll]
      exact List.Forall₂.nil
  | before, t :: after, h => by
      rw [Tree.cursorsOfAll, Tree.cursorsOfAll]
      exact List.rel_append (forall₂_cursors t (hrow before t after h))
        (forall₂_cursorsOfAll p p' row hrow (t :: before) after (by rw [h]; simp))

end

/-- Two elements with the same children have twins below them, one by one in document order. -/
theorem forall₂_descendants (hrow : s.focus.children = s'.focus.children) :
    List.Forall₂ (Twin s s') s.descendants s'.descendants := by
  rw [descendants, descendants, ← hrow]
  refine forall₂_cursorsOfAll s s' s.focus.children ?_ [] s.focus.children rfl
  intro b t a hb
  exact child hb (hrow ▸ hb)

/-- Every place below an element has a twin below the other one. -/
theorem exists_of_below (hrow : s.focus.children = s'.focus.children) (h : s.Below c) :
    ∃ c', Twin s s' c c' := by
  induction h with
  | @child c hp =>
      obtain ⟨t, _ | ⟨⟨l, before, after⟩, above⟩⟩ := c
      · cases hp
      · cases hp
        exact ⟨_, child rfl hrow.symm⟩
  | @down c p hp _ ih =>
      obtain ⟨p', twin⟩ := ih
      obtain ⟨t, _ | ⟨⟨l, before, after⟩, above⟩⟩ := c
      · cases hp
      · cases hp
        exact ⟨_, step twin rfl⟩

theorem parent?_step {p p' : Cursor} (twin : Twin s s' p p') {before after : List Tree} {t : Tree}
    (row : p.focus.children = before.reverse ++ t :: after) :
    (p'.down before t after).parent? = some p' :=
  parent?_down (twin.focus ▸ row)

/-- The elements above a place and below `s` have twins above the twin. -/
theorem mem_ancestorElements {d : Cursor} (h : Twin s s' c c') (hd : d ∈ c.ancestorElements)
    (hb : s.Below d) : ∃ d' ∈ c'.ancestorElements, Twin s s' d d' := by
  induction h with
  | @child before after t row row' =>
      -- right above stands `s` itself, and above that nothing is below it
      rw [ancestorElements_eq] at hd
      cases hp : (s.down before t after).parentElement? with
      | none =>
          rw [hp] at hd
          cases hd
      | some p =>
          obtain rfl : s = p :=
            Option.some.inj ((parent?_down row).symm.trans (parent?_of_parentElement? hp))
          rw [hp] at hd
          rcases List.mem_cons.mp hd with rfl | hd
          · exact absurd hb Below.not_self
          · have := below_of_mem_ancestors (List.takeWhile_sublist _ |>.subset hd)
            exact absurd hb this.asymm
  | @step p p' twin before after t row ih =>
      rw [ancestorElements_eq] at hd ⊢
      cases hp : p.isElement with
      | false =>
          have hnone : (p.down before t after).parentElement? = none := by
            rw [parentElement?, parent?_down row]
            simp [Option.filter, hp]
          simp [hnone] at hd
      | true =>
          have hp' : p'.isElement = true := by
            rw [isElement, label, ← twin.focus]
            exact hp
          rw [parentElement?_eq_some (parent?_down row) hp] at hd
          rw [parentElement?_eq_some (parent?_step twin row) hp']
          rcases List.mem_cons.mp hd with rfl | hd
          · exact ⟨p', List.mem_cons_self, twin⟩
          · obtain ⟨d', hd', hdd'⟩ := ih hd
            exact ⟨d', List.mem_cons_of_mem _ hd', hdd'⟩

theorem parentElement?_eq {d : Cursor} (h : Twin s s' c c') (hd : c.parentElement? = some d)
    (hb : s.Below d) : ∃ d', c'.parentElement? = some d' ∧ Twin s s' d d' := by
  cases h with
  | child row row' =>
      have hsd := (parent?_down row).symm.trans (parent?_of_parentElement? hd)
      obtain rfl := Option.some.inj hsd
      exact absurd hb Below.not_self
  | @step p p' twin before after t row =>
      have hpd := (parent?_down row).symm.trans (parent?_of_parentElement? hd)
      obtain rfl := Option.some.inj hpd
      refine ⟨p', parentElement?_eq_some (parent?_step twin row) ?_, twin⟩
      have hp := isElement_of_parentElement? hd
      rwa [isElement, label, twin.focus] at hp

/-- Where a combinator leads from a place, it leads to the twin from the twin, as long as that is
below `s`. -/
theorem related {d : Cursor} {via : Css.Combinator} (h : Twin s s' c c')
    (hd : d ∈ c.related via) (hb : s.Below d) : ∃ d' ∈ c'.related via, Twin s s' d d' := by
  have pick {xs ys : List Cursor} (hxy : List.Forall₂ (Twin s s') xs ys) (hx : d ∈ xs) :
      ∃ d' ∈ ys, Twin s s' d d' := by
    induction hxy with
    | nil => simp at hx
    | cons hab _ ih =>
        rcases List.mem_cons.mp hx with rfl | hx
        · exact ⟨_, List.mem_cons_self, hab⟩
        · obtain ⟨d', hd', hdd'⟩ := ih hx
          exact ⟨d', List.mem_cons_of_mem _ hd', hdd'⟩
  cases via with
  | child =>
      obtain ⟨d', hd', hdd'⟩ := h.parentElement?_eq (Option.mem_toList.mp hd) hb
      exact ⟨d', Option.mem_toList.mpr hd', hdd'⟩
  | descendant => exact h.mem_ancestorElements hd hb
  | next => exact pick (List.forall₂_take 1 h.forall₂_precedingElements) hd
  | later => exact pick h.forall₂_precedingElements hd

/-- The twin of a child of `s` is a child of `s'`. -/
theorem parent?_of_child (h : Twin s s' c c') (hc : c.parent? = some s) :
    c'.parent? = some s' := by
  cases h with
  | child row row' => exact parent?_down row'
  | step twin row =>
      obtain rfl := Option.some.inj ((parent?_down row).symm.trans hc)
      exact absurd twin.stands_below Below.not_self

theorem hangsFrom (hs : s.isElement = true) (hs' : s'.isElement = true)
    {left : List (Css.Combinator × Css.Compound)} (h : Twin s s' c c')
    (hc : Css.HangsFrom s left c) : Css.HangsFrom s' left c' := by
  induction left generalizing c c' with
  | nil => exact h.parent?_of_child hc
  | cons step rest ih =>
      obtain ⟨via, k⟩ := step
      obtain ⟨d, hd, hk, hrest⟩ := hc
      obtain ⟨d', hd', hdd'⟩ := h.related hd hrest.below
      exact ⟨d', hd', by rwa [← hdd'.holds_eq hs hs'], ih hdd' hrest⟩

/-- A selector hangs on `s` at a place if it hangs on `s'` at the twin. -/
theorem hangsOn_iff (hs : s.isElement = true) (hs' : s'.isElement = true) (h : Twin s s' c c')
    (e : Css.Complex) : e.HangsOn s c ↔ e.HangsOn s' c' := by
  rw [Css.Complex.HangsOn, Css.Complex.HangsOn, h.holds_eq hs hs']
  exact and_congr_right fun _ => ⟨h.hangsFrom hs hs', h.symm.hangsFrom hs' hs⟩

end Cursor.Twin

end MarkupQuery
