import Mathlib.Data.List.Induction
import MarkupQuery.Page.Edit

/-!
# Replacing children of a node

Most of what an edit does to a page is of one kind: a node gets another label, and some of its
children, one behind the other, give way to new ones. This is a *splice*. The children that give way
go on as trees of their own, and the children behind them move. Everything else stays where it is.

From a node that stands at or above the node of a splice, the page below looks different afterwards,
but the difference depends on the part of the tree below it alone. From any other node the page below
looks as it did before, wherever the node stands then.
-/

namespace MarkupQuery

/-! ### Paths -/

namespace Path

theorem drop?_eq_some_iff {p q r : Path} : drop? p q = some r ↔ q = p ++ r := by
  induction p generalizing q with
  | nil => simp [drop?]
  | cons i p ih =>
      cases q with
      | nil => simp [drop?]
      | cons k q =>
          by_cases h : i = k
          · simp [drop?, h, ih]
          · simp [drop?, h, Ne.symm h]

theorem drop?_append (p q r : Path) : drop? (p ++ q) (p ++ r) = drop? q r := by
  induction p with
  | nil => rfl
  | cons i p ih => simp [drop?, ih]

theorem splitLast?_eq_some_iff {p q : Path} {i : Nat} :
    splitLast? p = some (q, i) ↔ p = q ++ [i] := by
  induction p using List.reverseRecOn with
  | nil => simp [splitLast?]
  | append_singleton p k => simp [splitLast?]

theorem splitLast?_eq_none_iff {p : Path} : splitLast? p = none ↔ p = [] := by
  simp [splitLast?]

theorem mapBelow_append (f : Nat → Nat) (p : Path) (k : Nat) (r : Path) :
    mapBelow f p (p ++ k :: r) = p ++ f k :: r := by
  induction p with
  | nil => rfl
  | cons i p ih => simp [mapBelow, ih]

theorem mapBelow_of_not_below (f : Nat → Nat) {p q : Path} (h : ∀ k r, q ≠ p ++ k :: r) :
    mapBelow f p q = q := by
  induction p generalizing q with
  | nil =>
      cases q with
      | nil => rfl
      | cons k q => exact absurd rfl (h k q)
  | cons i p ih =>
      cases q with
      | nil => rfl
      | cons k q =>
          by_cases hk : i = k
          · subst hk
            rw [mapBelow, if_pos rfl, ih fun j r hq => h j r (congrArg (i :: ·) hq)]
          · rw [mapBelow, if_neg hk]

end Path

namespace Location

/-- The place that a path leads to from a node. -/
def below (l : Location) (q : Path) : Location := ⟨l.tree, l.path ++ q⟩

@[simp] theorem below_nil (l : Location) : l.below [] = l := by
  simp [below]

@[simp] theorem below_below (l : Location) (q r : Path) :
    (l.below q).below r = l.below (q ++ r) := by
  simp [below]

@[simp] theorem below_inj {l : Location} {q r : Path} : l.below q = l.below r ↔ q = r := by
  simp [below]

theorem eq_below_iff {l m : Location} {q : Path} :
    m = l.below q ↔ m.tree = l.tree ∧ m.path = l.path ++ q := by
  obtain ⟨i, p⟩ := m
  simp [below]

/-- Of two nodes with a common node at or below both, one stands at or below the other. -/
theorem comparable {l m : Location} {q r : Path} (h : l.below q = m.below r) :
    (∃ s, m = l.below s) ∨ ∃ k s, l = m.below (k :: s) := by
  simp only [below, Location.mk.injEq] at h
  obtain ⟨htree, hpath⟩ := h
  rcases List.append_eq_append_iff.mp hpath with ⟨s, hs, -⟩ | ⟨s, hs, -⟩
  · exact Or.inl ⟨s, eq_below_iff.mpr ⟨htree.symm, hs⟩⟩
  · cases s with
    | nil => exact Or.inl ⟨[], eq_below_iff.mpr ⟨htree.symm, by rw [hs]; simp⟩⟩
    | cons k s => exact Or.inr ⟨k, s, eq_below_iff.mpr ⟨htree, hs⟩⟩

end Location

/-! ### Parts of a tree -/

namespace Tree

theorem subtree?_cons (t : Tree) (k : Nat) (r : Path) :
    t.subtree? (k :: r) = t.children[k]?.bind (·.subtree? r) := by
  rw [subtree?]
  cases t.children[k]? <;> rfl

theorem subtree?_append (t : Tree) (p q : Path) :
    t.subtree? (p ++ q) = (t.subtree? p).bind (·.subtree? q) := by
  induction p generalizing t with
  | nil => rfl
  | cons i p ih =>
      rw [List.cons_append, subtree?_cons, subtree?_cons]
      cases t.children[i]? with
      | none => rfl
      | some c => exact ih c

theorem subtree?_modifyAt_cons (f : Tree → Tree) (i : Nat) (p : Path) (t : Tree) (k : Nat)
    (r : Path) :
    (modifyAt f (i :: p) t).subtree? (k :: r) =
      if i = k then t.children[k]?.bind fun c => (modifyAt f p c).subtree? r
      else t.subtree? (k :: r) := by
  obtain ⟨l, cs⟩ := t
  rw [subtree?_cons, subtree?_cons]
  show ((cs.modify i (modifyAt f p))[k]?).bind _ = _
  rw [List.getElem?_modify]
  by_cases hk : i = k
  · cases hc : cs[k]? <;> simp [hk, hc, children]
  · simp [hk, children]

/-- Below the part that is replaced stands what the new part holds. -/
theorem subtree?_modifyAt_append (f : Tree → Tree) (t : Tree) (p r : Path) :
    (modifyAt f p t).subtree? (p ++ r) = (t.subtree? p).bind fun u => (f u).subtree? r := by
  induction p generalizing t with
  | nil => rfl
  | cons i p ih =>
      rw [List.cons_append, subtree?_modifyAt_cons, if_pos rfl, subtree?_cons]
      cases t.children[i]? with
      | none => rfl
      | some c => exact ih c

/-- From above, the part is replaced where it stands below. -/
theorem subtree?_modifyAt_above (f : Tree → Tree) (t : Tree) (p q : Path) :
    (modifyAt f (p ++ q) t).subtree? p = (t.subtree? p).map (modifyAt f q) := by
  induction p generalizing t with
  | nil => rfl
  | cons i p ih =>
      rw [List.cons_append, subtree?_modifyAt_cons, if_pos rfl, subtree?_cons]
      cases t.children[i]? with
      | none => rfl
      | some c => exact ih c

/-- What stands neither above nor below the part that is replaced stays as it is. -/
theorem subtree?_modifyAt_aside (f : Tree → Tree) (t : Tree) {p r : Path}
    (habove : ∀ q, p ≠ r ++ q) (hbelow : ∀ q, r ≠ p ++ q) :
    (modifyAt f p t).subtree? r = t.subtree? r := by
  induction p generalizing t r with
  | nil => exact absurd rfl (hbelow r)
  | cons i p ih =>
      cases r with
      | nil => exact absurd rfl (habove (i :: p))
      | cons k r =>
          rw [subtree?_modifyAt_cons]
          by_cases hk : i = k
          · subst hk
            rw [if_pos rfl, subtree?_cons]
            cases t.children[i]? with
            | none => rfl
            | some c =>
                refine ih c ?_ ?_
                · intro q hq
                  exact habove q (congrArg (i :: ·) hq)
                · intro q hq
                  exact hbelow q (congrArg (i :: ·) hq)
          · rw [if_neg hk]

/-- Only what becomes of the part that stands there matters. -/
theorem modifyAt_congr {f g : Tree → Tree} {t u : Tree} {p : Path} (h : t.subtree? p = some u)
    (hfg : f u = g u) : modifyAt f p t = modifyAt g p t := by
  induction p generalizing t with
  | nil =>
      cases h
      exact hfg
  | cons i p ih =>
      obtain ⟨l, cs⟩ := t
      rw [subtree?_cons, Option.bind_eq_some_iff] at h
      obtain ⟨c, hc, hu⟩ := h
      show Tree.node l (cs.modify i (modifyAt f p)) = .node l (cs.modify i (modifyAt g p))
      congr 1
      refine List.ext_getElem? fun k => ?_
      rw [List.getElem?_modify, List.getElem?_modify]
      by_cases hk : i = k
      · subst hk
        show _ <$> cs[i]? = _ <$> cs[i]?
        rw [show cs[i]? = some c from hc]
        simp [ih hu]
      · simp [hk]

end Tree

namespace Page

theorem modifyAt_congr {p : Page} {l : Location} {u : Tree} {f g : Tree → Tree}
    (h : p.subtree? l = some u) (hfg : f u = g u) : p.modifyAt l f = p.modifyAt l g := by
  obtain ⟨T, hT, hu⟩ := Option.bind_eq_some_iff.mp h
  unfold modifyAt
  congr 1
  refine List.ext_getElem? fun i => ?_
  rw [List.getElem?_modify, List.getElem?_modify]
  by_cases hi : l.tree = i
  · subst hi
    rw [hT]
    simp [Tree.modifyAt_congr hu hfg]
  · simp [hi]

theorem subtree?_below (p : Page) (l : Location) (q : Path) :
    p.subtree? (l.below q) = (p.subtree? l).bind (·.subtree? q) := by
  rw [subtree?, subtree?, Location.below]
  cases p.trees[l.tree]? with
  | none => rfl
  | some t => exact t.subtree?_append l.path q

theorem subtree?_below_of_eq {p : Page} {l : Location} {t : Tree} (h : p.subtree? l = some t)
    (q : Path) : p.subtree? (l.below q) = t.subtree? q := by
  rw [subtree?_below, h, Option.bind_some]

theorem lt_of_subtree? {p : Page} {l : Location} {t : Tree} (h : p.subtree? l = some t) :
    l.tree < p.trees.length := by
  obtain ⟨T, hT, -⟩ := Option.bind_eq_some_iff.mp h
  exact (List.getElem?_eq_some_iff.mp hT).1

theorem length_modifyAt (p : Page) (l : Location) (f : Tree → Tree) :
    (p.modifyAt l f).trees.length = p.trees.length := by
  rw [modifyAt, List.length_modify]

theorem trees_modifyAt (p : Page) (l : Location) (f : Tree → Tree) (i : Nat) :
    (p.modifyAt l f).trees[i]? =
      if l.tree = i then (p.trees[i]?).map (Tree.modifyAt f l.path) else p.trees[i]? := by
  rw [modifyAt, List.getElem?_modify]
  split <;> simp

end Page

/-! ### Splices -/

/-- The replacement of some children of a node: as many as are counted, from an index on, give way
to new ones, and the node gets another label. -/
structure Splice where
  relabel : Node → Node
  index : Nat
  count : Nat
  news : List Tree

namespace Splice

def row (s : Splice) (cs : List Tree) : List Tree :=
  cs.take s.index ++ (s.news ++ cs.drop (s.index + s.count))

def out (s : Splice) (cs : List Tree) : List Tree := (cs.drop s.index).take s.count

def apply (s : Splice) : Tree → Tree
  | .node l cs => .node (s.relabel l) (s.row cs)

/-- Where a node stands after a splice at `a`, if the first child that gives way becomes the tree
with index `n`. -/
def move (s : Splice) (n : Nat) (a x : Location) : Location :=
  if x.tree = a.tree then
    match Path.drop? a.path x.path with
    | some (k :: r) =>
      if k < s.index then x
      else if k < s.index + s.count then ⟨n + (k - s.index), r⟩
      else a.below ((k - s.count + s.news.length) :: r)
    | _ => x
  else x

variable {s : Splice} {n : Nat} {a x y : Location}

theorem children_apply (s : Splice) (u : Tree) : (s.apply u).children = s.row u.children := by
  cases u
  rfl

/-! #### The children afterwards -/

theorem row_left {cs : List Tree} (hfit : s.index ≤ cs.length) {k : Nat} (hk : k < s.index) :
    (s.row cs)[k]? = cs[k]? := by
  have hlen : (cs.take s.index).length = s.index := List.length_take_of_le hfit
  rw [row, List.getElem?_append_left (by omega), List.getElem?_take_of_lt hk]

theorem row_new {cs : List Tree} (hfit : s.index ≤ cs.length) {j : Nat} (hj : j < s.news.length) :
    (s.row cs)[s.index + j]? = s.news[j]? := by
  have hlen : (cs.take s.index).length = s.index := List.length_take_of_le hfit
  rw [row, List.getElem?_append_right (by omega), hlen, Nat.add_sub_cancel_left,
    List.getElem?_append_left hj]

theorem row_right {cs : List Tree} (hfit : s.index ≤ cs.length) (j : Nat) :
    (s.row cs)[s.index + s.news.length + j]? = cs[s.index + s.count + j]? := by
  have hlen : (cs.take s.index).length = s.index := List.length_take_of_le hfit
  have hsub : s.index + s.news.length + j - s.index - s.news.length = j := by omega
  rw [row, List.getElem?_append_right (by omega), hlen, List.getElem?_append_right (by omega), hsub,
    List.getElem?_drop]

theorem getElem?_out {cs : List Tree} {j : Nat} (hj : j < s.count) :
    (s.out cs)[j]? = cs[s.index + j]? := by
  rw [out, List.getElem?_take_of_lt hj, List.getElem?_drop]

/-- A child stands in front of those that give way, is one of them or stands behind them. -/
theorem child_cases (s : Splice) (k : Nat) :
    k < s.index ∨ (∃ j < s.count, k = s.index + j) ∨ ∃ j, k = s.index + s.count + j := by
  by_cases hleft : k < s.index
  · exact Or.inl hleft
  · by_cases hout : k < s.index + s.count
    · exact Or.inr (Or.inl ⟨k - s.index, by omega, by omega⟩)
    · exact Or.inr (Or.inr ⟨k - (s.index + s.count), by omega⟩)

/-! #### Where nodes stand afterwards -/

theorem move_eq_self (s : Splice) (n : Nat) (h : ∀ k r, x = a.below (k :: r) → k < s.index) :
    s.move n a x = x := by
  unfold move
  split
  · rename_i htree
    split
    · rename_i k r hr
      have hx := Location.eq_below_iff.mpr ⟨htree, Path.drop?_eq_some_iff.mp hr⟩
      rw [if_pos (h k r hx)]
    · rfl
  · rfl

theorem move_below (s : Splice) (n : Nat) (a : Location) (k : Nat) (r : Path) :
    s.move n a (a.below (k :: r)) =
      if k < s.index then a.below (k :: r)
      else if k < s.index + s.count then ⟨n + (k - s.index), r⟩
      else a.below ((k - s.count + s.news.length) :: r) := by
  have hdrop : Path.drop? a.path (a.below (k :: r)).path = some (k :: r) :=
    Path.drop?_eq_some_iff.mpr rfl
  have htree : (a.below (k :: r)).tree = a.tree := rfl
  rw [move, if_pos htree, hdrop]

theorem move_out (n : Nat) (a : Location) {j : Nat} (hj : j < s.count) (r : Path) :
    s.move n a (a.below ((s.index + j) :: r)) = ⟨n + j, r⟩ := by
  rw [move_below, if_neg (by omega), if_pos (by omega), Nat.add_sub_cancel_left]

theorem move_right (s : Splice) (n : Nat) (a : Location) (j : Nat) (r : Path) :
    s.move n a (a.below ((s.index + s.count + j) :: r)) =
      a.below ((s.index + s.news.length + j) :: r) := by
  have hslot : s.index + s.count + j - s.count + s.news.length = s.index + s.news.length + j := by
    omega
  rw [move_below, if_neg (by omega), if_neg (by omega), hslot]

/-- A node stays where it is, it is in a child that gives way, or it is in one behind these. -/
theorem move_cases (s : Splice) (n : Nat) (a x : Location) :
    ((∀ k r, x = a.below (k :: r) → k < s.index) ∧ s.move n a x = x) ∨
    (∃ j r, j < s.count ∧ x = a.below ((s.index + j) :: r) ∧ s.move n a x = ⟨n + j, r⟩) ∨
    ∃ j r, x = a.below ((s.index + s.count + j) :: r) ∧
      s.move n a x = a.below ((s.index + s.news.length + j) :: r) := by
  by_cases h : ∀ k r, x = a.below (k :: r) → k < s.index
  · exact Or.inl ⟨h, move_eq_self s n h⟩
  · simp only [Classical.not_forall] at h
    obtain ⟨k, r, rfl, hk⟩ := h
    rcases s.child_cases k with hleft | ⟨j, hj, rfl⟩ | ⟨j, rfl⟩
    · exact absurd hleft hk
    · exact Or.inr (Or.inl ⟨j, r, hj, rfl, move_out n a hj r⟩)
    · exact Or.inr (Or.inr ⟨j, r, rfl, move_right s n a j r⟩)

/-- No two nodes come to stand in one place. -/
theorem move_injective (ha : a.tree < n) (hx : x.tree < n) (hy : y.tree < n)
    (h : s.move n a x = s.move n a y) : x = y := by
  rcases s.move_cases n a x with ⟨hxl, hmx⟩ | ⟨j, r, hj, rfl, hmx⟩ | ⟨j, r, rfl, hmx⟩ <;>
    rcases s.move_cases n a y with ⟨hyl, hmy⟩ | ⟨i, q, hi, rfl, hmy⟩ | ⟨i, q, rfl, hmy⟩ <;>
    rw [hmx, hmy] at h
  · exact h
  · rw [h] at hx
    exact absurd hx (by simp)
  · exact absurd (hxl _ _ h) (by omega)
  · rw [← h] at hy
    exact absurd hy (by simp)
  · simp only [Location.mk.injEq] at h
    obtain ⟨hij, rfl⟩ := h
    rw [Nat.add_left_cancel hij]
  · have htree : n + j = a.tree := congrArg Location.tree h
    omega
  · exact absurd (hyl _ _ h.symm) (by omega)
  · have htree : a.tree = n + i := congrArg Location.tree h
    omega
  · simp only [Location.below_inj, List.cons.injEq] at h
    obtain ⟨hij, rfl⟩ := h
    rw [show j = i by omega]

/-- No node comes to stand where the new children are. -/
theorem move_ne_new (ha : a.tree < n) {j : Nat} (hj : j < s.news.length) (r : Path) :
    s.move n a x ≠ a.below ((s.index + j) :: r) := by
  intro h
  rcases s.move_cases n a x with ⟨hxl, hmx⟩ | ⟨i, q, hi, rfl, hmx⟩ | ⟨i, q, rfl, hmx⟩ <;>
    rw [hmx] at h
  · exact absurd (hxl _ _ h) (by omega)
  · have htree : n + i = a.tree := congrArg Location.tree h
    omega
  · simp only [Location.below_inj, List.cons.injEq] at h
    omega

/-- The node of the splice and the nodes above it stay where they are. -/
theorem move_above (s : Splice) (n : Nat) {l : Location} {q : Path} (h : a = l.below q) :
    s.move n a l = l := by
  refine move_eq_self s n fun k r hl => ?_
  rw [h, Location.below_below] at hl
  have hnil := Location.below_inj.mp ((Location.below_nil l).trans hl)
  simp at hnil

/-- What stands below a node moves along with it, unless the splice is made there. -/
theorem move_along (s : Splice) (n : Nat) {l : Location} (h : ∀ q, a ≠ l.below q) (r : Path) :
    s.move n a (l.below r) = (s.move n a l).below r := by
  by_cases hl : ∃ k q, l = a.below (k :: q)
  · obtain ⟨k, q, rfl⟩ := hl
    rw [Location.below_below, List.cons_append, move_below, move_below]
    split
    · simp
    · split
      · simp [Location.below]
      · simp
  · simp only [not_exists] at hl
    rw [move_eq_self s n fun k q hlq => absurd hlq (hl k q), move_eq_self s n]
    intro k q hlq
    rcases Location.comparable hlq with ⟨q', hq'⟩ | ⟨k', q', hq'⟩
    · exact absurd hq' (h q')
    · exact absurd hq' (hl k' q')

end Splice

/-! ### A page after a splice -/

/-- Whether a page is what a splice at a node makes of another one, where `u` stood at the node and
has the children that the splice needs: those that give way have become trees of their own. -/
structure Splice.MadeAt (s : Splice) (a : Location) (u : Tree) (p p' : Page) : Prop where
  subtree_eq : p.subtree? a = some u
  fits : s.index + s.count ≤ u.children.length
  trees_eq : p'.trees = (p.modifyAt a s.apply).trees ++ s.out u.children

namespace Splice.MadeAt

variable {s : Splice} {a : Location} {u : Tree} {p p' : Page} {l : Location} {t : Tree}

theorem lt (h : s.MadeAt a u p p') : a.tree < p.trees.length :=
  Page.lt_of_subtree? h.subtree_eq

theorem index_le (h : s.MadeAt a u p p') : s.index ≤ u.children.length :=
  Nat.le_trans (Nat.le_add_right _ _) h.fits

theorem trees_left (h : s.MadeAt a u p p') {i : Nat} (hi : i < p.trees.length) :
    p'.trees[i]? =
      if a.tree = i then (p.trees[i]?).map (Tree.modifyAt s.apply a.path) else p.trees[i]? := by
  rw [h.trees_eq, List.getElem?_append_left (by rw [Page.length_modifyAt]; exact hi),
    Page.trees_modifyAt]

/-- From the node of the splice and from above, the part of the tree below is replaced. -/
theorem subtree_above (h : s.MadeAt a u p p') (hl : p.subtree? l = some t) {q : Path}
    (ha : a = l.below q) : p'.subtree? l = some (t.modifyAt s.apply q) := by
  obtain ⟨T, hT, ht⟩ := Option.bind_eq_some_iff.mp hl
  rw [Page.subtree?, h.trees_left (Page.lt_of_subtree? hl), if_pos (by rw [ha]; rfl), hT, ha]
  show (Tree.modifyAt s.apply (l.path ++ q) T).subtree? l.path = _
  rw [Tree.subtree?_modifyAt_above, ht]
  rfl

/-- The children of the node. -/
theorem subtree_child (h : s.MadeAt a u p p') (k : Nat) (r : Path) :
    p.subtree? (a.below (k :: r)) = u.children[k]?.bind (·.subtree? r) := by
  rw [Page.subtree?_below_of_eq h.subtree_eq, Tree.subtree?_cons]

/-- The children of the node afterwards. -/
theorem subtree_child' (h : s.MadeAt a u p p') (k : Nat) (r : Path) :
    p'.subtree? (a.below (k :: r)) = (s.row u.children)[k]?.bind (·.subtree? r) := by
  rw [Page.subtree?_below_of_eq (h.subtree_above h.subtree_eq (Location.below_nil a).symm),
    Tree.modifyAt, Tree.subtree?_cons, s.children_apply]

/-- From every other node the part of the tree below is the same. -/
theorem subtree_move (h : s.MadeAt a u p p') (hl : p.subtree? l = some t)
    (hnot : ∀ q, a ≠ l.below q) : p'.subtree? (s.move p.trees.length a l) = some t := by
  rcases s.move_cases p.trees.length a l with ⟨hleft, hmove⟩ | ⟨j, r, hj, rfl, hmove⟩ |
    ⟨j, r, rfl, hmove⟩ <;> rw [hmove]
  · by_cases hstrict : ∃ k r, l = a.below (k :: r)
    · obtain ⟨k, r, rfl⟩ := hstrict
      rw [h.subtree_child', s.row_left h.index_le (hleft k r rfl), ← h.subtree_child, hl]
    · -- the node stands in another tree or aside
      simp only [not_exists] at hstrict
      rw [Page.subtree?, h.trees_left (Page.lt_of_subtree? hl)]
      split
      · rename_i htree
        rw [← hl, Page.subtree?]
        cases p.trees[l.tree]? with
        | none => rfl
        | some T =>
            refine Tree.subtree?_modifyAt_aside s.apply T ?_ ?_
            · intro q hq
              exact hnot q (Location.eq_below_iff.mpr ⟨htree, hq⟩)
            · intro q hq
              have hlq := Location.eq_below_iff.mpr ⟨htree.symm, hq⟩
              cases q with
              | nil => exact hnot [] (by rw [hlq]; simp)
              | cons k r => exact hstrict k r hlq
      · exact hl
  · rw [Page.subtree?, h.trees_eq, List.getElem?_append_right (by simp [Page.length_modifyAt]),
      Page.length_modifyAt, Nat.add_sub_cancel_left, Splice.getElem?_out hj, ← hl, h.subtree_child]
  · rw [h.subtree_child', s.row_right h.index_le, ← h.subtree_child, hl]

/-- Where the new children stand. -/
theorem subtree_new (h : s.MadeAt a u p p') {j : Nat} (hj : j < s.news.length) (r : Path) :
    p'.subtree? (a.below ((s.index + j) :: r)) = s.news[j]?.bind (·.subtree? r) := by
  rw [h.subtree_child', s.row_new h.index_le hj]

/-- Every place at or below a node above the splice has a node that was there before and has come to
stand there, or a new one. Which it is depends on the part of the tree below alone. -/
theorem exists_of_subtree_above (h : s.MadeAt a u p p') (hl : p.subtree? l = some t) {q : Path}
    (ha : a = l.below q) {r' : Path} (hr' : ((t.modifyAt s.apply q).subtree? r').isSome = true) :
    (∃ r, (t.subtree? r).isSome = true ∧
      ∀ (n : Nat) (m : Location), s.move n (m.below q) (m.below r) = m.below r') ∨
    ∃ j r, j < s.news.length ∧ r' = q ++ (s.index + j) :: r := by
  have hq : t.subtree? q = some u := by
    rw [← h.subtree_eq, ha, Page.subtree?_below_of_eq hl]
  have hbefore (k : Nat) (r : Path) :
      t.subtree? (q ++ k :: r) = u.children[k]?.bind (·.subtree? r) := by
    rw [Tree.subtree?_append, hq, Option.bind_some, Tree.subtree?_cons]
  by_cases hstrict : ∃ k r, r' = q ++ k :: r
  · obtain ⟨k, r, rfl⟩ := hstrict
    rw [Tree.subtree?_modifyAt_append, hq, Option.bind_some, Tree.subtree?_cons,
      s.children_apply] at hr'
    by_cases hleft : k < s.index
    · refine Or.inl ⟨q ++ k :: r, ?_, fun n m => ?_⟩
      · rw [hbefore, ← s.row_left h.index_le hleft]
        exact hr'
      · rw [← Location.below_below, Splice.move_below, if_pos hleft]
    · by_cases hnew : k < s.index + s.news.length
      · exact Or.inr ⟨k - s.index, r, by omega, by rw [Nat.add_sub_cancel' (by omega)]⟩
      · obtain ⟨j, rfl⟩ := Nat.exists_eq_add_of_le (Nat.le_of_not_lt hnew)
        refine Or.inl ⟨q ++ (s.index + s.count + j) :: r, ?_, fun n m => ?_⟩
        · rw [hbefore, ← s.row_right h.index_le]
          exact hr'
        · rw [← Location.below_below, Splice.move_right, Location.below_below]
  · simp only [not_exists] at hstrict
    refine Or.inl ⟨r', ?_, fun n m => ?_⟩
    · by_cases habove : ∃ q', q = r' ++ q'
      · obtain ⟨q', rfl⟩ := habove
        rw [Tree.subtree?_modifyAt_above, Option.isSome_map] at hr'
        exact hr'
      · simp only [not_exists] at habove
        rw [Tree.subtree?_modifyAt_aside s.apply t habove] at hr'
        · exact hr'
        · intro q' hq'
          cases q' with
          | nil => exact habove [] (by rw [hq']; simp)
          | cons k r => exact hstrict k r hq'
    · refine Splice.move_eq_self s n fun k r hr => ?_
      rw [Location.below_below, Location.below_inj] at hr
      exact absurd hr (hstrict k r)

end Splice.MadeAt

end MarkupQuery
