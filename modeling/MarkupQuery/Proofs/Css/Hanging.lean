import MarkupQuery.Css.Selector.Miss
import MarkupQuery.Proofs.Tree.Place

/-!
# Selectors that hang on an element

A selector *hangs* on an element `s` at a place when its subject matches there and its left part can
be matched around it so that the leftmost compound matches a child of `s`: in CSS one would write
`:scope > …`. Such a place stands below `s` (`Complex.HangsOn.below`), and on a child of `s` it
stands exactly if all combinators of the selector lead to siblings
(`Complex.HangsOn.parent?_iff_isFlat`).

A selector that is anchored behind `k > ` selects what hangs on an element that `k` matches
(`Complex.selects_anchor_iff`).
-/

namespace MarkupQuery

namespace Cursor

theorem parent?_of_parentElement? {c p : Cursor} (h : c.parentElement? = some p) :
    c.parent? = some p :=
  (Option.filter_eq_some_iff.mp h).1

theorem isElement_of_parentElement? {c p : Cursor} (h : c.parentElement? = some p) :
    p.isElement = true :=
  (Option.filter_eq_some_iff.mp h).2

theorem parentElement?_eq_some {c p : Cursor} (h : c.parent? = some p) (hp : p.isElement = true) :
    c.parentElement? = some p :=
  Option.filter_eq_some_iff.mpr ⟨h, hp⟩

theorem below_of_mem_ancestors {c a : Cursor} (h : a ∈ c.ancestors) : a.Below c := by
  obtain ⟨t, above⟩ := c
  induction above generalizing t with
  | nil => simp [ancestors, ancestorsFrom] at h
  | cons crumb above ih =>
      obtain ⟨l, before, after⟩ := crumb
      have hp : parent? ⟨t, ⟨l, before, after⟩ :: above⟩ =
          some ⟨.node l (before.reverse ++ t :: after), above⟩ := rfl
      rw [ancestors_eq, hp] at h
      rcases List.mem_cons.mp h with rfl | h
      · exact .child hp
      · exact .down hp (ih _ h)

theorem Below.not_self {s : Cursor} : ¬ s.Below s :=
  fun h => Earlier.irrefl s (Earlier.of_below h)

theorem Below.asymm {s c : Cursor} (h : s.Below c) : ¬ c.Below s :=
  fun h' => Below.not_self (h.trans h')

/-- Wherever a combinator leads, what the place there stands below, the place itself stands
below. -/
theorem below_of_mem_related {s c d : Cursor} {via : Css.Combinator} (hd : d ∈ c.related via)
    (hb : s.Below d) : s.Below c := by
  have sibling : d ∈ c.precedingElements → s.Below c := by
    intro h
    obtain ⟨p, hp, hps⟩ := below_iff_parent?.mp hb
    rw [parent?_of_mem_precedingSiblings (List.mem_filter.mp h).1] at hp
    exact below_iff_parent?.mpr ⟨p, hp, hps⟩
  cases via with
  | child =>
      have h : c.parentElement? = some d := Option.mem_toList.mp hd
      exact .down (parent?_of_parentElement? h) hb
  | descendant =>
      have h : d ∈ c.ancestors := List.takeWhile_sublist _ |>.subset hd
      exact hb.trans (below_of_mem_ancestors h)
  | next => exact sibling (List.mem_of_mem_take hd)
  | later => exact sibling hd

end Cursor

namespace Css

/-- Whether the left part of a selector can be matched around a place so that its leftmost compound
matches a child of `s`. With nothing left over, the place itself is that child. -/
def HangsFrom (s : Cursor) : List (Combinator × Compound) → Cursor → Prop
  | [], c => c.parent? = some s
  | (via, k) :: rest, c => ∃ d ∈ c.related via, k.holds d = true ∧ HangsFrom s rest d

instance HangsFrom.decide (s : Cursor) :
    (left : List (Combinator × Compound)) → (c : Cursor) → Decidable (HangsFrom s left c)
  | [], c => inferInstanceAs (Decidable (c.parent? = some s))
  | (via, k) :: rest, c =>
    have := HangsFrom.decide s rest
    inferInstanceAs (Decidable (∃ d ∈ c.related via, k.holds d = true ∧ HangsFrom s rest d))

namespace Complex

/-- Whether a selector matches a place in such a way that its leftmost compound matches a child
of `s`. -/
def HangsOn (e : Complex) (s c : Cursor) : Prop :=
  e.subject.holds c = true ∧ HangsFrom s e.left c

instance (e : Complex) (s c : Cursor) : Decidable (e.HangsOn s c) :=
  inferInstanceAs (Decidable (_ ∧ _))

end Complex

theorem HangsFrom.below {s c : Cursor} {left : List (Combinator × Compound)}
    (h : HangsFrom s left c) : s.Below c := by
  induction left generalizing c with
  | nil => exact .child h
  | cons step rest ih =>
      obtain ⟨d, hd, -, hrest⟩ := h
      exact Cursor.below_of_mem_related hd (ih hrest)

theorem Complex.HangsOn.below {e : Complex} {s c : Cursor} (h : e.HangsOn s c) : s.Below c :=
  HangsFrom.below h.2

/-- A compound matches elements only. -/
theorem Compound.isElement_of_holds {k : Compound} {c : Cursor} (h : k.holds c = true) :
    c.isElement = true := by
  obtain ⟨⟨l, cs⟩, above⟩ := c
  cases l with
  | element n as => rfl
  | _ => simp [Compound.holds, TypeTest.holdsAt, Cursor.label, Tree.label, Node.name?] at h

theorem leftHolds_anchor_iff {k : Compound} {left : List (Combinator × Compound)} {c : Cursor} :
    leftHolds (left ++ [(.child, k)]) c = true ↔ ∃ s, k.holds s = true ∧ HangsFrom s left c := by
  induction left generalizing c with
  | nil =>
      simp only [List.nil_append, leftHolds, Bool.and_true, List.any_eq_true, related_child,
        Option.mem_toList, HangsFrom]
      constructor
      · rintro ⟨s, hs, hk⟩
        exact ⟨s, hk, Cursor.parent?_of_parentElement? hs⟩
      · rintro ⟨s, hk, hs⟩
        exact ⟨s, Cursor.parentElement?_eq_some hs (Compound.isElement_of_holds hk), hk⟩
  | cons step rest ih =>
      obtain ⟨via, k'⟩ := step
      simp only [List.cons_append, leftHolds, List.any_eq_true, Bool.and_eq_true, ih, HangsFrom]
      constructor
      · rintro ⟨d, hd, hk', s, hk, hs⟩
        exact ⟨s, hk, d, hd, hk', hs⟩
      · rintro ⟨s, hk, d, hd, hk', hs⟩
        exact ⟨d, hd, hk', s, hk, hs⟩

/-- Behind `k > ` a selector selects what hangs on the elements that `k` matches. -/
theorem Complex.selects_anchor_iff {e : Complex} {k : Compound} {c : Cursor} :
    (e.anchor .child k).selects c = true ↔ ∃ s, k.holds s = true ∧ e.HangsOn s c := by
  rw [Complex.selects_eq]
  simp only [Complex.anchor, Bool.and_eq_true, leftHolds_anchor_iff, HangsOn]
  constructor
  · rintro ⟨⟨-, hsub⟩, s, hk, hs⟩
    exact ⟨s, hk, hsub, hs⟩
  · rintro ⟨s, hk, hsub, hs⟩
    exact ⟨⟨Compound.isElement_of_holds hsub, hsub⟩, s, hk, hs⟩

/-! ### Selectors that stay among siblings -/

def Combinator.isLevel : Combinator → Bool
  | next | later => true
  | child | descendant => false

def Complex.isFlat (e : Complex) : Bool := e.left.all (·.1.isLevel)

theorem parent?_of_mem_related {c d : Cursor} {via : Combinator} (hvia : via.isLevel = true)
    (hd : d ∈ c.related via) : d.parent? = c.parent? := by
  have hsibling : d ∈ c.precedingElements := by
    cases via with
    | child | descendant => cases hvia
    | next => exact List.mem_of_mem_take hd
    | later => exact hd
  exact Cursor.parent?_of_mem_precedingSiblings (List.mem_filter.mp hsibling).1

/-- Where a combinator leads that does not lead to siblings stands above. -/
theorem below_of_mem_related_of_not_level {c d : Cursor} {via : Combinator}
    (hvia : via.isLevel = false) (hd : d ∈ c.related via) : d.Below c := by
  cases via with
  | child => exact .child (Cursor.parent?_of_parentElement? (Option.mem_toList.mp hd))
  | descendant =>
      exact Cursor.below_of_mem_ancestors (List.takeWhile_sublist _ |>.subset hd)
  | next | later => cases hvia

theorem HangsFrom.parent?_iff {s c : Cursor} {left : List (Combinator × Compound)}
    (h : HangsFrom s left c) : c.parent? = some s ↔ left.all (·.1.isLevel) = true := by
  induction left generalizing c with
  | nil => exact ⟨fun _ => rfl, fun _ => h⟩
  | cons step rest ih =>
      obtain ⟨via, k⟩ := step
      obtain ⟨d, hd, -, hrest⟩ := h
      rw [List.all_cons, Bool.and_eq_true]
      cases hvia : via.isLevel with
      | true =>
          rw [← parent?_of_mem_related hvia hd, ih hrest]
          simp
      | false =>
          -- `d` stands above `c` and below `s`, so `s` is not right above `c`
          have hdc := below_of_mem_related_of_not_level hvia hd
          constructor
          · intro hp
            obtain ⟨p, hp', hpd⟩ := Cursor.below_iff_parent?.mp hdc
            obtain rfl := Option.some.inj (hp'.symm.trans hp)
            rcases hpd with rfl | hpd
            · exact absurd hrest.below Cursor.Below.not_self
            · exact absurd hrest.below hpd.asymm
          · rintro ⟨h, -⟩
            cases h

/-- A selector that hangs on an element matches a child of it exactly if it is flat. -/
theorem Complex.HangsOn.parent?_iff_isFlat {e : Complex} {s c : Cursor} (h : e.HangsOn s c) :
    c.parent? = some s ↔ e.isFlat = true :=
  HangsFrom.parent?_iff h.2

end Css

end MarkupQuery
