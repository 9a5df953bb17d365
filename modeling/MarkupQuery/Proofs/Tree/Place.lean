import Mathlib.Data.List.Lex
import MarkupQuery.Tree.Outward

/-!
# Places of one tree

A cursor never leaves the tree it stands in: every move keeps `Cursor.top`. Within one tree a place
is known by its path (`Cursor.eq_of_path_eq`), what stands below a place is what can be reached from
it by going down (`Cursor.mem_descendants`), and the list of these places is in document order:
their paths grow strictly, index by index (`Cursor.descendants_sorted`).
-/

namespace MarkupQuery

mutual

def Tree.equal : (t u : Tree) → Decidable (t = u)
  | .node l cs, .node m ds =>
    match decEq l m, Tree.equalAll cs ds with
    | isTrue hl, isTrue hc => isTrue (by rw [hl, hc])
    | isFalse hl, _ => isFalse fun h => hl (Tree.node.inj h).1
    | _, isFalse hc => isFalse fun h => hc (Tree.node.inj h).2

def Tree.equalAll : (ts us : List Tree) → Decidable (ts = us)
  | [], [] => isTrue rfl
  | [], _ :: _ => isFalse nofun
  | _ :: _, [] => isFalse nofun
  | t :: ts, u :: us =>
    match Tree.equal t u, Tree.equalAll ts us with
    | isTrue ht, isTrue hs => isTrue (by rw [ht, hs])
    | isFalse ht, _ => isFalse fun h => ht (List.cons.inj h).1
    | _, isFalse hs => isFalse fun h => hs (List.cons.inj h).2

end

instance : DecidableEq Tree := Tree.equal

deriving instance DecidableEq for Crumb

deriving instance DecidableEq for Cursor

namespace Cursor

/-! ## One tree -/

theorem top_of_parent? {c p : Cursor} (h : c.parent? = some p) : p.top = c.top := by
  obtain ⟨t, _ | ⟨⟨l, before, after⟩, above⟩⟩ := c
  · cases h
  · cases h
    rfl

/-- The child at an index has the cursor as its parent. -/
theorem parent?_of_child? {c d : Cursor} {i : Nat} (h : c.child? i = some d) :
    d.parent? = some c := by
  obtain ⟨⟨l, cs⟩, above⟩ := c
  rw [child?] at h
  split at h
  · cases h
  · rename_i t after hdrop
    cases h
    have hcs : cs.take i ++ t :: after = cs := by
      rw [← hdrop]
      exact List.take_append_drop i cs
    simp [parent?, Tree.label, Tree.children, hcs]

theorem top_of_descend? {c d : Cursor} {p : Path} (h : c.descend? p = some d) :
    d.top = c.top := by
  induction p generalizing c with
  | nil =>
      cases h
      rfl
  | cons i p ih =>
      rw [descend?] at h
      cases hc : c.child? i with
      | none => simp [hc] at h
      | some e =>
          rw [hc] at h
          rw [ih h, top_of_parent? (parent?_of_child? hc)]

/-- A path leads to a place of the tree. -/
theorem top_of_cursor? {t : Tree} {c : Cursor} {p : Path} (h : t.cursor? p = some c) :
    c.top = t :=
  top_of_descend? h

/-! ## Paths -/

theorem child?_of_parent? {c p : Cursor} (h : c.parent? = some p) :
    p.child? c.before.length = some c := by
  obtain ⟨t, _ | ⟨⟨l, before, after⟩, above⟩⟩ := c
  · cases h
  · cases h
    have hlen : before.length = before.reverse.length := by simp
    simp [child?, Cursor.before, Tree.label, Tree.children, hlen, -List.length_reverse]

theorem path_of_parent? {c p : Cursor} (h : c.parent? = some p) :
    c.path = p.path ++ [c.before.length] := by
  obtain ⟨t, _ | ⟨⟨l, before, after⟩, above⟩⟩ := c
  · cases h
  · cases h
    simp [path, Cursor.before]

theorem length_before_of_child? {c d : Cursor} {i : Nat} (h : c.child? i = some d) :
    d.before.length = i := by
  rw [child?] at h
  split at h
  · cases h
  · rename_i t after hdrop
    cases h
    have hlt : i < c.focus.children.length := by
      by_contra hle
      rw [List.drop_eq_nil_of_le (by omega)] at hdrop
      cases hdrop
    simp only [Cursor.before, List.length_reverse, List.length_take]
    omega

/-- The path of a place is the way to it. -/
theorem path_of_descend? {c d : Cursor} {p : Path} (h : c.descend? p = some d) :
    d.path = c.path ++ p := by
  induction p generalizing c with
  | nil =>
      cases h
      simp
  | cons i p ih =>
      rw [descend?] at h
      cases hc : c.child? i with
      | none => simp [hc] at h
      | some e =>
          rw [hc] at h
          rw [ih h, path_of_parent? (parent?_of_child? hc), length_before_of_child? hc,
            List.append_assoc]
          rfl

theorem descend?_path_append (t : Tree) (above : List Crumb) (q : Path) :
    (top ⟨t, above⟩).cursor? (path ⟨t, above⟩ ++ q) = descend? ⟨t, above⟩ q := by
  induction above generalizing t q with
  | nil => rfl
  | cons crumb above ih =>
      obtain ⟨l, before, after⟩ := crumb
      have hp : parent? ⟨t, ⟨l, before, after⟩ :: above⟩ =
          some ⟨.node l (before.reverse ++ t :: after), above⟩ := rfl
      rw [path_of_parent? hp, List.append_assoc, ← top_of_parent? hp, ih,
        List.singleton_append, descend?, child?_of_parent? hp]

/-- The path of a place leads to it. -/
theorem cursor?_path (c : Cursor) : c.top.cursor? c.path = some c := by
  have h := descend?_path_append c.focus c.above []
  rwa [List.append_nil] at h

/-- In one tree no two places have the same path. -/
theorem eq_of_path_eq {c d : Cursor} (htop : c.top = d.top) (hpath : c.path = d.path) : c = d := by
  have hc := cursor?_path c
  rw [htop, hpath, cursor?_path] at hc
  exact (Option.some.inj hc).symm

/-- Places of one tree are known by the paths that lead to them. -/
theorem eq_of_map_path_eq {ds es : List Cursor} {t : Tree} (hds : ∀ d ∈ ds, d.top = t)
    (hes : ∀ e ∈ es, e.top = t) (h : ds.map path = es.map path) : ds = es := by
  induction ds generalizing es with
  | nil => exact (List.map_eq_nil_iff.mp h.symm).symm
  | cons d ds ih =>
      obtain ⟨e, es, rfl, hpath, hrest⟩ := List.map_eq_cons_iff.mp h.symm
      obtain ⟨hd, hds⟩ := List.forall_mem_cons.mp hds
      obtain ⟨he, hes⟩ := List.forall_mem_cons.mp hes
      rw [eq_of_path_eq (hd.trans he.symm) hpath.symm, ih hds hes hrest.symm]

theorem descend?_focus (c : Cursor) (p : Path) :
    (c.descend? p).map Cursor.focus = c.focus.subtree? p := by
  induction p generalizing c with
  | nil => rfl
  | cons i p ih =>
      rw [descend?, Tree.subtree?, child?]
      cases hd : c.focus.children.drop i with
      | nil =>
          have : c.focus.children[i]? = none := by
            rw [List.getElem?_eq_none_iff]
            exact List.drop_eq_nil_iff.mp hd
          simp [this]
      | cons t after =>
          have : c.focus.children[i]? = some t := by
            rw [← List.head?_drop, hd]
            rfl
          simp [this, ih]

/-! ## Below a place -/

/-- A place that is reached from another one by going down at least one step. -/
inductive Below (s : Cursor) : Cursor → Prop where
  | child {c : Cursor} (h : c.parent? = some s) : Below s c
  | down {c p : Cursor} (h : c.parent? = some p) (below : Below s p) : Below s c

theorem Below.top {s c : Cursor} (h : s.Below c) : c.top = s.top := by
  induction h with
  | child h => exact (top_of_parent? h).symm
  | down h _ ih => rw [← top_of_parent? h, ih]

theorem Below.path {s c : Cursor} (h : s.Below c) : ∃ i q, c.path = s.path ++ i :: q := by
  induction h with
  | @child c h => exact ⟨c.before.length, [], path_of_parent? h⟩
  | @down c p h _ ih =>
      obtain ⟨i, q, hq⟩ := ih
      refine ⟨i, q ++ [c.before.length], ?_⟩
      rw [path_of_parent? h, hq]
      simp

theorem Below.trans {s c d : Cursor} (h : s.Below c) (h' : c.Below d) : s.Below d := by
  induction h' with
  | child hd => exact down hd h
  | down hd _ ih => exact down hd ih

/-- A place below stands right below the upper one or below something that stands below it. -/
theorem below_iff_parent? {s c : Cursor} :
    s.Below c ↔ ∃ p, c.parent? = some p ∧ (p = s ∨ s.Below p) := by
  constructor
  · rintro (h | ⟨h, hb⟩)
    · exact ⟨s, h, Or.inl rfl⟩
    · exact ⟨_, h, Or.inr hb⟩
  · rintro ⟨p, h, rfl | hb⟩
    · exact .child h
    · exact .down h hb

theorem mem_placesOf {l : Node} {above : List Crumb} {before ts : List Tree} {c : Cursor} :
    c ∈ placesOf l above before ts ↔
      c.parent? = some ⟨.node l (before.reverse ++ ts), above⟩ ∧
        before.length ≤ c.before.length := by
  induction ts generalizing before with
  | nil =>
      simp only [placesOf, List.not_mem_nil, List.append_nil, false_iff]
      rintro ⟨hp, hle⟩
      obtain ⟨u, _ | ⟨⟨l', b, a⟩, above'⟩⟩ := c
      · cases hp
      · simp only [parent?, Option.some.injEq, Cursor.mk.injEq, Tree.node.injEq] at hp
        have hlen := congrArg List.length hp.1.2
        simp only [List.length_append, List.length_reverse, List.length_cons] at hlen
        have hle' : before.length ≤ b.length := hle
        omega
  | cons t ts ih =>
      have hcs : before.reverse ++ t :: ts = (t :: before).reverse ++ ts := by simp
      rw [placesOf, List.mem_cons, ih, hcs]
      constructor
      · rintro (rfl | ⟨hp, hle⟩)
        · exact ⟨by simp [parent?], le_rfl⟩
        · exact ⟨hp, by simp only [List.length_cons] at hle; omega⟩
      · rintro ⟨hp, hle⟩
        rcases Nat.lt_or_eq_of_le hle with hlt | heq
        · exact Or.inr ⟨hp, hlt⟩
        · left
          -- the tree at the first index is the first one of the row
          have hd := child?_of_parent? hp
          rw [← heq, child?] at hd
          simp [Tree.children, Tree.label] at hd
          exact hd.symm

/-- The children are the places whose parent the cursor is. -/
theorem mem_children {s c : Cursor} : c ∈ s.children ↔ c.parent? = some s := by
  obtain ⟨⟨l, cs⟩, above⟩ := s
  rw [children, mem_placesOf]
  simp [Tree.label, Tree.children]

/-! ## Document order -/

theorem inclusiveDescendants_eq (c : Cursor) :
    c.inclusiveDescendants = c :: c.descendants := by
  obtain ⟨⟨l, cs⟩, above⟩ := c
  simp [inclusiveDescendants, descendants, Tree.cursors, Tree.label, Tree.children]

theorem cursorsOfAll_eq (l : Node) (above : List Crumb) (before ts : List Tree) :
    Tree.cursorsOfAll l above before ts =
      (placesOf l above before ts).flatMap inclusiveDescendants := by
  induction ts generalizing before with
  | nil => simp [Tree.cursorsOfAll, placesOf]
  | cons t ts ih => simp [Tree.cursorsOfAll, placesOf, ih, inclusiveDescendants]

/-- Below a cursor come its children in order, each with everything below it. -/
theorem descendants_eq (c : Cursor) :
    c.descendants = c.children.flatMap inclusiveDescendants := by
  rw [descendants, cursorsOfAll_eq, children]

theorem mem_inclusiveDescendants_iff {s c : Cursor} :
    c ∈ s.inclusiveDescendants ↔ c = s ∨ c ∈ s.descendants := by
  rw [inclusiveDescendants_eq, List.mem_cons]

mutual

theorem below_of_mem_cursors {c : Cursor} : ∀ (t : Tree) (above : List Crumb),
    c ∈ t.cursors above → c = ⟨t, above⟩ ∨ Below ⟨t, above⟩ c
  | .node l cs, above, h => by
      rw [Tree.cursors, List.mem_cons] at h
      rcases h with h | h
      · exact Or.inl h
      · exact Or.inr (below_of_mem_cursorsOfAll l above [] cs h)

theorem below_of_mem_cursorsOfAll {c : Cursor} (l : Node) (above : List Crumb) :
    ∀ before ts : List Tree, c ∈ Tree.cursorsOfAll l above before ts →
      Below ⟨.node l (before.reverse ++ ts), above⟩ c
  | before, [], h => by simp [Tree.cursorsOfAll] at h
  | before, t :: ts, h => by
      rw [Tree.cursorsOfAll, List.mem_append] at h
      rcases h with h | h
      · have hp : parent? ⟨t, ⟨l, before, ts⟩ :: above⟩ =
            some ⟨.node l (before.reverse ++ t :: ts), above⟩ := rfl
        rcases below_of_mem_cursors t _ h with rfl | hb
        · exact .child hp
        · exact Below.trans (.child hp) hb
      · have hb := below_of_mem_cursorsOfAll l above (t :: before) ts h
        simpa using hb

end

mutual

/-- What stands below a listed place is listed too. -/
theorem mem_cursors_trans {c d : Cursor} (hd : d ∈ c.descendants) :
    ∀ (t : Tree) (above : List Crumb), c ∈ t.cursors above → d ∈ t.cursors above
  | .node l cs, above, h => by
      rw [Tree.cursors, List.mem_cons] at h ⊢
      rcases h with rfl | h
      · exact Or.inr (by simpa [descendants, Tree.label, Tree.children] using hd)
      · exact Or.inr (mem_cursorsOfAll_trans hd l above [] cs h)

theorem mem_cursorsOfAll_trans {c d : Cursor} (hd : d ∈ c.descendants) (l : Node)
    (above : List Crumb) : ∀ before ts : List Tree, c ∈ Tree.cursorsOfAll l above before ts →
      d ∈ Tree.cursorsOfAll l above before ts
  | before, [], h => by simp [Tree.cursorsOfAll] at h
  | before, t :: ts, h => by
      rw [Tree.cursorsOfAll, List.mem_append] at h ⊢
      rcases h with h | h
      · exact Or.inl (mem_cursors_trans hd t _ h)
      · exact Or.inr (mem_cursorsOfAll_trans hd l above (t :: before) ts h)

end

theorem mem_descendants_of_parent? {c p : Cursor} (h : c.parent? = some p) :
    c ∈ p.descendants := by
  rw [descendants_eq, List.mem_flatMap]
  exact ⟨c, mem_children.mpr h, mem_inclusiveDescendants_iff.mpr (Or.inl rfl)⟩

/-- The descendants are the places below. -/
theorem mem_descendants {s c : Cursor} : c ∈ s.descendants ↔ s.Below c := by
  constructor
  · intro h
    obtain ⟨⟨l, cs⟩, above⟩ := s
    exact below_of_mem_cursorsOfAll l above [] cs h
  · intro h
    induction h with
    | child h => exact mem_descendants_of_parent? h
    | down h _ ih =>
        exact mem_cursorsOfAll_trans (mem_descendants_of_parent? h) _ _ _ _ ih

instance (s c : Cursor) : Decidable (s.Below c) := decidable_of_iff _ mem_descendants

theorem mem_inclusiveDescendants {s c : Cursor} :
    c ∈ s.inclusiveDescendants ↔ c = s ∨ s.Below c := by
  rw [mem_inclusiveDescendants_iff, mem_descendants]

/-- The order of two places in the document: index by index from the top, and whoever stands above
comes first. -/
def Earlier (c d : Cursor) : Prop := c.path < d.path

theorem Earlier.of_below {s c : Cursor} (h : s.Below c) : Earlier s c := by
  obtain ⟨i, q, hq⟩ := h.path
  have hlt : s.path ++ [] < s.path ++ i :: q := List.append_left_lt (List.nil_lt_cons i q)
  rwa [List.append_nil, ← hq] at hlt

theorem Earlier.irrefl (c : Cursor) : ¬ Earlier c c := List.lt_irrefl c.path

theorem Earlier.asymm {c d : Cursor} (h : Earlier c d) : ¬ Earlier d c := List.lt_asymm h

theorem path_of_mem_cursorsOfAll {l : Node} {above : List Crumb} {before ts : List Tree}
    {c : Cursor} (h : c ∈ Tree.cursorsOfAll l above before ts) (t : Tree) :
    ∃ i q, before.length ≤ i ∧ c.path = path ⟨t, above⟩ ++ i :: q := by
  rw [cursorsOfAll_eq, List.mem_flatMap] at h
  obtain ⟨e, he, hc⟩ := h
  obtain ⟨hp, hle⟩ := mem_placesOf.mp he
  -- a path does not depend on the tree that stands at its end
  have hpath : e.path = path ⟨t, above⟩ ++ [e.before.length] := by
    rw [path_of_parent? hp]
    rfl
  rcases mem_inclusiveDescendants.mp hc with rfl | hb
  · exact ⟨c.before.length, [], hle, hpath⟩
  · obtain ⟨j, q, hq⟩ := hb.path
    refine ⟨e.before.length, j :: q, hle, ?_⟩
    rw [hq, hpath]
    simp

mutual

theorem cursors_sorted : ∀ (t : Tree) (above : List Crumb),
    (t.cursors above).Pairwise Earlier
  | .node l cs, above => by
      rw [Tree.cursors]
      refine List.pairwise_cons.mpr ⟨?_, cursorsOfAll_sorted l above [] cs⟩
      intro c hc
      exact Earlier.of_below (below_of_mem_cursorsOfAll l above [] cs hc)

theorem cursorsOfAll_sorted (l : Node) (above : List Crumb) : ∀ before ts : List Tree,
    (Tree.cursorsOfAll l above before ts).Pairwise Earlier
  | before, [] => by
      rw [Tree.cursorsOfAll]
      exact List.Pairwise.nil
  | before, t :: ts => by
      rw [Tree.cursorsOfAll]
      refine List.pairwise_append.mpr
        ⟨cursors_sorted t _, cursorsOfAll_sorted l above (t :: before) ts, ?_⟩
      intro c hc d hd
      -- everything in the first tree has its index, everything behind it a greater one
      obtain ⟨j, q, hj, hq⟩ := path_of_mem_cursorsOfAll hd t
      have hpc : ∃ r, c.path = path ⟨t, above⟩ ++ before.length :: r := by
        rcases below_of_mem_cursors t _ hc with rfl | hb
        · exact ⟨[], by simp [path]⟩
        · obtain ⟨i, r, hr⟩ := hb.path
          exact ⟨i :: r, by rw [hr]; simp [path]⟩
      obtain ⟨r, hr⟩ := hpc
      rw [Earlier, hr, hq]
      refine List.append_left_lt (List.cons_lt_cons_iff.mpr (Or.inl ?_))
      simp only [List.length_cons] at hj
      omega

end

/-- The descendants stand in document order, each of them once. -/
theorem descendants_sorted (c : Cursor) : c.descendants.Pairwise Earlier :=
  cursorsOfAll_sorted _ _ _ _

theorem inclusiveDescendants_sorted (c : Cursor) : c.inclusiveDescendants.Pairwise Earlier :=
  cursors_sorted _ _

/-- The children stand in document order. -/
theorem children_sorted (c : Cursor) : c.children.Pairwise Earlier := by
  have hsub : c.children.Sublist c.descendants := by
    rw [descendants_eq]
    induction c.children with
    | nil => exact .slnil
    | cons d ds ih =>
        rw [List.flatMap_cons, inclusiveDescendants_eq, List.cons_append]
        exact (ih.trans (List.sublist_append_right _ _)).cons_cons d
  exact (descendants_sorted c).sublist hsub

theorem nodup_of_sorted {xs : List Cursor} (h : xs.Pairwise Earlier) : xs.Nodup := by
  refine h.imp ?_
  rintro c d hcd rfl
  exact Earlier.irrefl c hcd

/-- Two lists of the same places, both in document order, are the same list. -/
theorem eq_of_sorted {xs ys : List Cursor} (hx : xs.Pairwise Earlier) (hy : ys.Pairwise Earlier)
    (h : ∀ c, c ∈ xs ↔ c ∈ ys) : xs = ys := by
  have hperm : xs.Perm ys :=
    (List.perm_ext_iff_of_nodup (nodup_of_sorted hx) (nodup_of_sorted hy)).mpr h
  exact hperm.eq_of_pairwise (fun c d _ _ hcd hdc => absurd hdc hcd.asymm) hx hy

/-- A tree is its top with everything below. -/
theorem mem_cursors_top (c : Cursor) : c ∈ c.top.cursors [] := by
  obtain ⟨t, above⟩ := c
  induction above generalizing t with
  | nil => exact mem_inclusiveDescendants.mpr (Or.inl rfl)
  | cons crumb above ih =>
      obtain ⟨l, before, after⟩ := crumb
      have hp : parent? ⟨t, ⟨l, before, after⟩ :: above⟩ =
          some ⟨.node l (before.reverse ++ t :: after), above⟩ := rfl
      rw [← top_of_parent? hp]
      exact mem_cursors_trans (mem_descendants_of_parent? hp) _ _ (ih _)

/-- The topmost node above a place, or the place itself if nothing stands above it. -/
def topmost (c : Cursor) : Cursor := ⟨c.top, []⟩

theorem eq_topmost_or_below (c : Cursor) : c = c.topmost ∨ c.topmost.Below c :=
  below_of_mem_cursors c.top [] c.mem_cursors_top

theorem top_of_mem_cursors {t : Tree} {c : Cursor} (h : c ∈ t.cursors []) : c.top = t := by
  rcases below_of_mem_cursors t [] h with rfl | hb
  · rfl
  · exact hb.top

end Cursor

end MarkupQuery
