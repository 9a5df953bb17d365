import Mathlib.Data.List.Range
import MarkupQuery.Page.Remains
import MarkupQuery.Proofs.Page.Alike

/-!
# Nodes that stay when a tree is broken up

The nodes that stay when the top of a tree goes stand in the tree, and none of them stands at or
below another one (`Tree.remains_apart`). So the trees that are made of them share no node, and each
node at or below one of them is carried along (`Page.carries_breakUp`). All other nodes of the tree
are gone.
-/

namespace MarkupQuery

/-- Whether neither of two paths leads to a place at or below the end of the other. -/
def Path.Apart (p q : Path) : Prop := ∀ r s, p ++ r ≠ q ++ s

theorem Path.apart_of_ne (above : Path) {i j : Nat} (h : i ≠ j) (p q : Path) :
    Apart (above ++ i :: p) (above ++ j :: q) := by
  intro r s heq
  simp [h] at heq

namespace Tree

variable {held : Path → Bool} {q : Path}

mutual

theorem exists_of_mem_remainsAt : ∀ (here : Path) (t : Tree),
    q ∈ (t.remainsAt held here).flatten → ∃ r, q = here ++ r ∧ (t.subtree? r).isSome = true
  | here, .node l cs, h => by
      obtain ⟨k, r, c, hc, rfl, hr⟩ := exists_of_mem_remainsAmong here 0 cs h
      refine ⟨(0 + k) :: r, rfl, ?_⟩
      rw [Nat.zero_add, subtree?_cons]
      show (cs[k]?.bind _).isSome = true
      rw [hc]
      exact hr

theorem exists_of_mem_remainsAmong : ∀ (above : Path) (i : Nat) (ts : List Tree),
    q ∈ (remainsAmong held above i ts).flatten →
      ∃ k r c, ts[k]? = some c ∧ q = above ++ (i + k) :: r ∧ (c.subtree? r).isSome = true
  | above, i, [], h => by simp [remainsAmong] at h
  | above, i, t :: ts, h => by
      rw [remainsAmong] at h
      split at h
      · rw [List.flatten_singleton, List.mem_map] at h
        obtain ⟨j, hj, rfl⟩ := h
        rw [List.mem_range'_1] at hj
        have hlt : j - i < (t :: ts).length := by simp; omega
        refine ⟨j - i, [], (t :: ts)[j - i], List.getElem?_eq_getElem hlt, ?_, rfl⟩
        rw [Nat.add_sub_cancel' hj.1]
      · rw [List.flatten_append, List.mem_append] at h
        rcases h with h | h
        · obtain ⟨r, rfl, hr⟩ := exists_of_mem_remainsAt (above ++ [i]) t h
          exact ⟨0, r, t, rfl, by simp, hr⟩
        · obtain ⟨k, r, c, hc, rfl, hr⟩ := exists_of_mem_remainsAmong above (i + 1) ts h
          exact ⟨k + 1, r, c, hc, by rw [Nat.add_assoc, Nat.add_comm 1], hr⟩

end

mutual

theorem remainsAt_apart : ∀ (here : Path) (t : Tree),
    (t.remainsAt held here).flatten.Pairwise Path.Apart
  | here, .node _ cs => remainsAmong_apart here 0 cs

theorem remainsAmong_apart : ∀ (above : Path) (i : Nat) (ts : List Tree),
    (remainsAmong held above i ts).flatten.Pairwise Path.Apart
  | above, i, [] => by simp [remainsAmong]
  | above, i, t :: ts => by
      rw [remainsAmong]
      split
      · rw [List.flatten_singleton, List.pairwise_map]
        refine (List.nodup_range' (n := ts.length + 1) (s := i)).imp fun hne => ?_
        exact Path.apart_of_ne above hne [] []
      · rw [List.flatten_append, List.pairwise_append]
        refine ⟨remainsAt_apart (above ++ [i]) t, remainsAmong_apart above (i + 1) ts, ?_⟩
        intro p hp q hq
        obtain ⟨r, rfl, -⟩ := exists_of_mem_remainsAt (above ++ [i]) t hp
        obtain ⟨k, r', c, -, rfl, -⟩ := exists_of_mem_remainsAmong above (i + 1) ts hq
        rw [List.append_assoc, List.singleton_append]
        exact Path.apart_of_ne above (by omega) r r'

end

mutual

/-- At or above each node below the top that is held, a node stays. -/
theorem exists_mem_remainsAt : ∀ (here : Path) (t : Tree) {q : Path}, q ≠ [] →
    (t.subtree? q).isSome = true → held (here ++ q) = true →
      ∃ r s, r ∈ (t.remainsAt held here).flatten ∧ here ++ q = r ++ s
  | here, .node _ cs, [], hne, _, _ => absurd rfl hne
  | here, .node _ cs, k :: q, _, hq, hheld => by
      rw [subtree?_cons] at hq
      have hmem := exists_mem_remainsAmong here 0 cs hq (by rwa [Nat.zero_add])
      rwa [Nat.zero_add] at hmem

theorem exists_mem_remainsAmong : ∀ (above : Path) (i : Nat) (ts : List Tree) {k : Nat} {q : Path},
    (ts[k]?.bind (·.subtree? q)).isSome = true → held (above ++ (i + k) :: q) = true →
      ∃ r s, r ∈ (remainsAmong held above i ts).flatten ∧ above ++ (i + k) :: q = r ++ s
  | above, i, [], k, q, hq, _ => by simp at hq
  | above, i, t :: ts, k, q, hq, hheld => by
      rw [remainsAmong]
      by_cases hi : held (above ++ [i]) = true
      · have hk : k < (t :: ts).length := by
          by_contra hle
          rw [List.getElem?_eq_none (Nat.le_of_not_lt hle)] at hq
          cases hq
        rw [if_pos hi, List.flatten_singleton]
        refine ⟨above ++ [i + k], q, List.mem_map_of_mem (List.mem_range'_1.mpr ?_), by simp⟩
        exact ⟨Nat.le_add_right i k, Nat.add_lt_add_left hk i⟩
      · rw [if_neg hi]
        simp only [List.flatten_append, List.mem_append]
        cases k with
        | zero =>
            have hne : q ≠ [] := by
              rintro rfl
              exact hi hheld
            have hsplit : above ++ (i + 0) :: q = above ++ [i] ++ q := by simp
            rw [hsplit] at hheld ⊢
            obtain ⟨r, s, hr, heq⟩ := exists_mem_remainsAt (above ++ [i]) t hne hq hheld
            exact ⟨r, s, Or.inl hr, heq⟩
        | succ k =>
            have hindex : i + (k + 1) = i + 1 + k := by omega
            rw [hindex] at hheld ⊢
            obtain ⟨r, s, hr, heq⟩ := exists_mem_remainsAmong above (i + 1) ts hq hheld
            exact ⟨r, s, Or.inr hr, heq⟩

end

/-- The nodes that stay stand in the tree. -/
theorem isSome_of_mem_remains {t : Tree} (h : q ∈ (t.remains held).flatten) :
    (t.subtree? q).isSome = true := by
  obtain ⟨r, rfl, hr⟩ := exists_of_mem_remainsAt [] t h
  exact hr

/-- None of the nodes that stay stands at or below another one. -/
theorem remains_apart (t : Tree) : (t.remains held).flatten.Pairwise Path.Apart :=
  remainsAt_apart [] t

end Tree

namespace Page

variable {p : Page} {held : List Location} {i : Nat} {l x : Location}

/-- Where the node of a location stands after a tree has been broken up, if it stays. -/
def afterBreakUp? (p : Page) (held : List Location) (i : Nat) (l : Location) : Option Location :=
  if l.tree ≠ i then some l
  else (p.remains held i).flatten.zipIdx.findSome? fun (q, k) =>
    (Path.drop? q l.path).map (⟨p.trees.length + k, ·⟩)

theorem afterBreakUp_eq (p : Page) (held : List Location) (i : Nat) (l : Location) :
    p.afterBreakUp held i l = (p.afterBreakUp? held i l).getD l := by
  unfold afterBreakUp afterBreakUp?
  split <;> rfl

theorem isSome_of_mem_remains {q : Path} (h : q ∈ (p.remains held i).flatten) :
    (p.subtree? ⟨i, q⟩).isSome = true := by
  unfold remains at h
  rw [subtree?]
  cases ht : p.trees[i]? with
  | none => simp [ht] at h
  | some t =>
      rw [ht] at h
      exact Tree.isSome_of_mem_remains h

theorem remains_apart (p : Page) (held : List Location) (i : Nat) :
    (p.remains held i).flatten.Pairwise Path.Apart := by
  unfold remains
  split
  · exact Tree.remains_apart _
  · exact .nil

/-- Of the nodes that stay, at most one stands at or above a place. -/
theorem remains_unique {q q' r r' : Path} {k k' : Nat}
    (hq : (p.remains held i).flatten[k]? = some q)
    (hq' : (p.remains held i).flatten[k']? = some q') (h : q ++ r = q' ++ r') : k = k' := by
  have hapart := p.remains_apart held i
  rw [List.pairwise_iff_getElem] at hapart
  obtain ⟨hk, rfl⟩ := List.getElem?_eq_some_iff.mp hq
  obtain ⟨hk', rfl⟩ := List.getElem?_eq_some_iff.mp hq'
  rcases Nat.lt_trichotomy k k' with hlt | heq | hlt
  · exact absurd h (hapart k k' hk hk' hlt r r')
  · exact heq
  · exact absurd h.symm (hapart k' k hk' hk hlt r' r)

/-- Where a node of the tree comes to stand. -/
theorem afterBreakUp?_eq_some_iff (hl : l.tree = i) :
    p.afterBreakUp? held i l = some x ↔ ∃ k q r, (p.remains held i).flatten[k]? = some q ∧
      l.path = q ++ r ∧ x = ⟨p.trees.length + k, r⟩ := by
  have hsome {y : Location} (hy : p.afterBreakUp? held i l = some y) :
      ∃ k q r, (p.remains held i).flatten[k]? = some q ∧ l.path = q ++ r ∧
        y = ⟨p.trees.length + k, r⟩ := by
    rw [afterBreakUp?, if_neg (Decidable.not_not.mpr hl)] at hy
    obtain ⟨⟨q, k⟩, hmem, hdrop⟩ := List.exists_of_findSome?_eq_some hy
    obtain ⟨r, hr, rfl⟩ := Option.map_eq_some_iff.mp hdrop
    exact ⟨k, q, r, List.mem_zipIdx_iff_getElem?.mp hmem, Path.drop?_eq_some_iff.mp hr, rfl⟩
  constructor
  · exact hsome
  · rintro ⟨k, q, r, hq, hr, rfl⟩
    cases hy : p.afterBreakUp? held i l with
    | none =>
        rw [afterBreakUp?, if_neg (Decidable.not_not.mpr hl), List.findSome?_eq_none_iff] at hy
        have hnone := hy (q, k) (List.mem_zipIdx_iff_getElem?.mpr hq)
        rw [Option.map_eq_none_iff, hr, Path.drop?_eq_some_iff.mpr rfl] at hnone
        cases hnone
    | some y =>
        obtain ⟨k', q', r', hq', hr', rfl⟩ := hsome hy
        obtain rfl := remains_unique hq hq' (hr.symm.trans hr')
        rw [hq] at hq'
        cases hq'
        rw [List.append_cancel_left (hr.symm.trans hr')]

theorem trees_foldl_addRow (hi : i < p.trees.length) (rows : List (List Path)) :
    (rows.foldl (·.addRow i ·) p).trees =
      p.trees ++ rows.flatten.filterMap fun q => p.subtree? ⟨i, q⟩ := by
  induction rows generalizing p with
  | nil => simp
  | cons row rows ih =>
      have hsame (q : Path) : (p.addRow i row).subtree? ⟨i, q⟩ = p.subtree? ⟨i, q⟩ := by
        rw [subtree?, subtree?, addRow]
        dsimp only
        rw [List.getElem?_append_left hi]
      have hlt : i < (p.addRow i row).trees.length := by
        rw [addRow]
        simp
        omega
      rw [List.foldl_cons, ih hlt]
      simp only [hsame, List.flatten_cons, List.filterMap_append, ← List.append_assoc]
      rfl

theorem trees_breakUp (p : Page) (held : List Location) (i : Nat) :
    (p.breakUp held i).trees =
      p.trees ++ (p.remains held i).flatten.filterMap fun q => p.subtree? ⟨i, q⟩ := by
  by_cases hi : i < p.trees.length
  · exact trees_foldl_addRow hi _
  · have hnone : p.remains held i = [] := by
      rw [remains, List.getElem?_eq_none (Nat.le_of_not_lt hi)]
    rw [breakUp, hnone]
    simp

theorem getElem?_filterMap {α β : Type} {f : α → Option β} {as : List α}
    (h : ∀ a ∈ as, (f a).isSome = true) (k : Nat) : (as.filterMap f)[k]? = as[k]?.bind f := by
  induction as generalizing k with
  | nil => rfl
  | cons a as ih =>
      obtain ⟨ha, has⟩ := List.forall_mem_cons.mp h
      obtain ⟨b, hb⟩ := Option.isSome_iff_exists.mp ha
      rw [List.filterMap_cons, hb]
      cases k with
      | zero => exact hb.symm
      | succ k => exact ih has k

/-- What stands in place of a node that stays. -/
theorem subtree?_breakUp {k : Nat} {q r : Path} (hq : (p.remains held i).flatten[k]? = some q) :
    (p.breakUp held i).subtree? ⟨p.trees.length + k, r⟩ = p.subtree? ⟨i, q ++ r⟩ := by
  have htree : (p.breakUp held i).trees[p.trees.length + k]? = p.subtree? ⟨i, q⟩ := by
    rw [trees_breakUp, List.getElem?_append_right (Nat.le_add_right _ _), Nat.add_sub_cancel_left,
      getElem?_filterMap fun q hq => isSome_of_mem_remains hq, hq]
    rfl
  rw [subtree?, htree]
  exact (p.subtree?_below ⟨i, q⟩ r).symm

theorem afterBreakUp?_of_ne (hl : l.tree ≠ i) : p.afterBreakUp? held i l = some l := by
  rw [afterBreakUp?, if_pos hl]

/-- What is held below the top of a tree stays when it is broken up. -/
theorem isSome_afterBreakUp? (hl : (p.subtree? l).isSome = true) (hheld : l ∈ held)
    (htop : l ≠ ⟨i, []⟩) : (p.afterBreakUp? held i l).isSome = true := by
  by_cases htree : l.tree = i
  · subst htree
    obtain ⟨t, ht⟩ := Option.isSome_iff_exists.mp hl
    obtain ⟨T, hT, ht⟩ := Option.bind_eq_some_iff.mp ht
    have hne : l.path ≠ [] := fun hpath => htop (by rw [← hpath])
    have hrow : ∃ q r, q ∈ (T.remainsAt (fun q => held.contains ⟨l.tree, q⟩) []).flatten ∧
        l.path = q ++ r :=
      Tree.exists_mem_remainsAt [] T hne (by rw [ht]; rfl) (by simpa using hheld)
    obtain ⟨q, r, hq, hr⟩ := hrow
    obtain ⟨k, hk⟩ := List.mem_iff_getElem?.mp hq
    have hk : (p.remains held l.tree).flatten[k]? = some q := by
      rw [remains, hT]
      exact hk
    rw [(afterBreakUp?_eq_some_iff rfl).mpr ⟨k, q, r, hk, hr, rfl⟩]
    rfl
  · rw [afterBreakUp?_of_ne htree]
    rfl

/-- Breaking up a tree carries along all nodes of other trees and those that stay. -/
theorem carries_breakUp (p : Page) (held : List Location) (i : Nat) :
    p.Carries (p.breakUp held i) (p.afterBreakUp? held i) where
  subtree := by
    intro l x t hx ht
    by_cases hl : l.tree = i
    · obtain ⟨k, q, r, hq, hr, rfl⟩ := (afterBreakUp?_eq_some_iff hl).mp hx
      rw [subtree?_breakUp hq, ← hr, ← hl]
      exact ht
    · rw [afterBreakUp?_of_ne hl] at hx
      cases hx
      rw [subtree?, trees_breakUp, List.getElem?_append_left (lt_of_subtree? ht)]
      exact ht
  below := by
    intro l x q hx _
    by_cases hl : l.tree = i
    · obtain ⟨k, q', r, hq', hr, rfl⟩ := (afterBreakUp?_eq_some_iff hl).mp hx
      refine (afterBreakUp?_eq_some_iff (l := l.below q) hl).mpr ⟨k, q', r ++ q, hq', ?_, rfl⟩
      rw [Location.below, hr, List.append_assoc]
    · rw [afterBreakUp?_of_ne hl] at hx
      cases hx
      exact afterBreakUp?_of_ne hl
  injective := by
    intro l m x hl hm hx hx'
    obtain ⟨t, ht⟩ := Option.isSome_iff_exists.mp hl
    obtain ⟨t', ht'⟩ := Option.isSome_iff_exists.mp hm
    have hlt := lt_of_subtree? ht
    have hlt' := lt_of_subtree? ht'
    by_cases hli : l.tree = i <;> by_cases hmi : m.tree = i
    · obtain ⟨k, q, r, hq, hr, rfl⟩ := (afterBreakUp?_eq_some_iff hli).mp hx
      obtain ⟨k', q', r', hq', hr', heq⟩ := (afterBreakUp?_eq_some_iff hmi).mp hx'
      simp only [Location.mk.injEq, Nat.add_left_cancel_iff] at heq
      obtain ⟨rfl, rfl⟩ := heq
      rw [hq] at hq'
      cases hq'
      obtain ⟨j, path⟩ := l
      obtain ⟨j', path'⟩ := m
      rw [show path = q ++ r from hr, show path' = q ++ r from hr', show j = i from hli,
        show j' = i from hmi]
    · obtain ⟨k, q, r, -, -, rfl⟩ := (afterBreakUp?_eq_some_iff hli).mp hx
      rw [afterBreakUp?_of_ne hmi] at hx'
      cases hx'
      exact absurd hlt' (by simp)
    · obtain ⟨k, q, r, -, -, rfl⟩ := (afterBreakUp?_eq_some_iff hmi).mp hx'
      rw [afterBreakUp?_of_ne hli] at hx
      cases hx
      exact absurd hlt (by simp)
    · rw [afterBreakUp?_of_ne hli] at hx
      rw [afterBreakUp?_of_ne hmi] at hx'
      cases hx
      cases hx'
      rfl

end Page

end MarkupQuery
