import MarkupQuery.Proofs.Page.Splice

/-!
# Edits as splices

Every edit is a splice at the node that it is made at or at the parent of this node, unless it is
made at the top of a tree and needs the parent.
-/

namespace MarkupQuery

namespace Edit

/-- The same edit made at another node. -/
def atNode (l : Location) : Edit → Edit
  | setAttribute _ name value => setAttribute l name value
  | removeAttribute _ name => removeAttribute l name
  | setText _ value => setText l value
  | append _ new => append l new
  | insertBefore _ new => insertBefore l new
  | detach _ => detach l

@[simp] theorem location_atNode (e : Edit) (l : Location) : (e.atNode l).location = l := by
  cases e <;> rfl

@[simp] theorem atNode_location (e : Edit) : e.atNode e.location = e := by
  cases e <;> rfl

@[simp] theorem atNode_atNode (e : Edit) (l m : Location) :
    (e.atNode l).atNode m = e.atNode m := by
  cases e <;> rfl

/-- The tree that an edit puts into a page, if it does. -/
def new? : Edit → Option Tree
  | setText _ value => some (.leaf (.text value))
  | append _ new | insertBefore _ new => some new
  | _ => none

@[simp] theorem new?_atNode (e : Edit) (l : Location) : (e.atNode l).new? = e.new? := by
  cases e <;> rfl

/-- Where the top of the new tree stands afterwards. -/
def newPlace (e : Edit) (p : Page) : Location :=
  match e with
  | setText l _ => l.below [0]
  | append l _ => l.below [((p.subtree? l).map (·.children.length)).getD 0]
  | e => e.subject p

/-- The splice that an edit is, and the node where it is made. `u` is the part of the page at the
node of the edit. -/
def site? (u : Tree) : Edit → Option (Location × Splice)
  | setAttribute l name value =>
    some (l, ⟨(·.mapAttributes (·.set (.plain name) value)), 0, 0, []⟩)
  | removeAttribute l name => some (l, ⟨(·.mapAttributes (·.erase (.plain name))), 0, 0, []⟩)
  | setText l value => some (l, ⟨id, 0, u.children.length, [.leaf (.text value)]⟩)
  | append l new => some (l, ⟨id, u.children.length, 0, [new]⟩)
  | insertBefore l new =>
    (Path.splitLast? l.path).map fun (parent, i) => (⟨l.tree, parent⟩, ⟨id, i, 0, [new]⟩)
  | detach l =>
    (Path.splitLast? l.path).map fun (parent, i) => (⟨l.tree, parent⟩, ⟨id, i, 1, []⟩)

/-- Whether an edit of a page is a splice at a node, where `w` stood. -/
structure SplicesAt (e : Edit) (p : Page) (a : Location) (w : Tree) (s : Splice) : Prop where
  madeAt : s.MadeAt a w p (e.apply p)
  relocate_eq : ∀ x, (p.subtree? x).isSome = true → e.relocate p x = s.move p.trees.length a x
  news_eq : s.news = e.new?.toList
  newPlace_eq : ∀ t ∈ e.new?, e.newPlace p = a.below [s.index]

/-- Whether an edit leaves all trees of a page alone. What it puts in stands alone. -/
structure StandsAlone (e : Edit) (p : Page) : Prop where
  trees_eq : (e.apply p).trees = p.trees ++ e.new?.toList
  relocate_eq : ∀ x, e.relocate p x = x
  newPlace_eq : ∀ t ∈ e.new?, e.newPlace p = ⟨p.trees.length, []⟩

variable {p : Page} {u : Tree} {l : Location}

theorem lt_length_children (h : p.subtree? l = some u) {k : Nat} {r : Path}
    (hx : (p.subtree? (l.below (k :: r))).isSome = true) : k < u.children.length := by
  rw [Page.subtree?_below_of_eq h, Tree.subtree?_cons] at hx
  by_contra hle
  rw [List.getElem?_eq_none (Nat.le_of_not_lt hle)] at hx
  cases hx

/-- Where nothing gives way and nothing is new, nothing moves. -/
theorem move_relabel (f : Node → Node) (n : Nat) (a x : Location) :
    (Splice.mk f 0 0 []).move n a x = x := by
  rcases Splice.move_cases ⟨f, 0, 0, []⟩ n a x with ⟨-, h⟩ | ⟨j, r, hj, -⟩ | ⟨j, r, rfl, h⟩
  · exact h
  · exact absurd hj (Nat.not_lt_zero j)
  · exact h

/-- A node that stands below a child of another one, or does not. -/
theorem below_cases (l x : Location) :
    (∃ k r, x = l.below (k :: r)) ∨
      (∀ k r, x ≠ l.below (k :: r)) ∧
        (x.tree = l.tree → ∀ k r, Path.drop? l.path x.path ≠ some (k :: r)) := by
  by_cases h : ∃ k r, x = l.below (k :: r)
  · exact Or.inl h
  · simp only [not_exists] at h
    refine Or.inr ⟨h, fun htree k r hdrop => ?_⟩
    exact h k r (Location.eq_below_iff.mpr ⟨htree, Path.drop?_eq_some_iff.mp hdrop⟩)

theorem splicesAt_relabel {e : Edit} (h : p.subtree? e.location = some u) (f : Node → Node)
    (happly : e.apply p = p.modifyAt e.location (·.mapLabel f))
    (hrelocate : ∀ x, e.relocate p x = x) (hnew : e.new? = none) :
    e.SplicesAt p e.location u ⟨f, 0, 0, []⟩ := by
  refine ⟨⟨h, Nat.zero_le _, ?_⟩, fun x _ => ?_, by rw [hnew]; rfl, by simp [hnew]⟩
  · rw [happly, Splice.out, List.take_zero, List.append_nil, Page.modifyAt_congr h]
    cases u
    simp [Tree.mapLabel, Splice.apply, Splice.row]
  · rw [move_relabel, hrelocate]

theorem splicesAt_setText (h : p.subtree? l = some u) (value : String) :
    (setText l value).SplicesAt p l u ⟨id, 0, u.children.length, [.leaf (.text value)]⟩ := by
  refine ⟨⟨h, by simp, ?_⟩, fun x hx => ?_, rfl, fun t _ => rfl⟩
  · rw [apply, location, h]
    simp only [Splice.out, Page.addTrees, List.drop_zero, List.take_length]
    rw [Page.modifyAt_congr h]
    cases u
    simp [Tree.mapChildren, Tree.children, Splice.apply, Splice.row]
  · rw [relocate, location, h]
    rcases below_cases l x with ⟨k, r, rfl⟩ | ⟨hnot, hdrop⟩
    · have hk := lt_length_children h hx
      have hd : Path.drop? l.path (l.below (k :: r)).path = some (k :: r) :=
        Path.drop?_eq_some_iff.mpr rfl
      rw [Splice.move_below]
      simp [hd, hk, show (l.below (k :: r)).tree = l.tree from rfl]
    · rw [Splice.move_eq_self _ _ fun k r hx => absurd hx (hnot k r)]
      dsimp only
      split
      · rfl
      · rename_i htree
        split
        · rename_i k r hr
          exact absurd hr (hdrop (Decidable.not_not.mp htree) k r)
        · rfl

theorem splicesAt_append (h : p.subtree? l = some u) (new : Tree) :
    (append l new).SplicesAt p l u ⟨id, u.children.length, 0, [new]⟩ := by
  refine ⟨⟨h, by simp, ?_⟩, fun x hx => ?_, rfl, fun t _ => ?_⟩
  · rw [apply, location, h, Splice.out, List.take_zero, List.append_nil]
    dsimp only
    rw [Page.modifyAt_congr h]
    cases u
    simp [Tree.mapChildren, Tree.children, Splice.apply, Splice.row]
  · rw [relocate, location, h]
    rw [Splice.move_eq_self]
    · simp
    · rintro k r rfl
      exact lt_length_children h hx
  · rw [newPlace, h]
    rfl

theorem subtree?_child {a : Location} {w : Tree} {i : Nat} (hw : p.subtree? a = some w)
    (hu : w.children[i]? = some u) : p.subtree? (a.below [i]) = some u := by
  rw [Page.subtree?_below_of_eq hw, Tree.subtree?_cons, hu]
  rfl

theorem splitLast?_child (a : Location) (i : Nat) :
    Path.splitLast? (a.below [i]).path = some (a.path, i) :=
  Path.splitLast?_eq_some_iff.mpr rfl

theorem splicesAt_insertBefore {a : Location} {w : Tree} {i : Nat} (hw : p.subtree? a = some w)
    (hu : w.children[i]? = some u) (new : Tree) :
    (insertBefore (a.below [i]) new).SplicesAt p a w ⟨id, i, 0, [new]⟩ := by
  have hi : i < w.children.length := (List.getElem?_eq_some_iff.mp hu).1
  refine ⟨⟨hw, Nat.le_of_lt hi, ?_⟩, fun x _ => ?_, rfl, fun t _ => ?_⟩
  · rw [apply, location, subtree?_child hw hu, Splice.out, List.take_zero, List.append_nil]
    dsimp only
    rw [splitLast?_child]
    show (p.modifyAt a _).trees = _
    rw [Page.modifyAt_congr hw]
    cases w
    simp [Tree.mapChildren, Splice.apply, Splice.row]
  · rw [relocate, location, subtree?_child hw hu]
    dsimp only
    rw [splitLast?_child]
    rcases below_cases a x with ⟨k, r, rfl⟩ | ⟨hnot, -⟩
    · rw [Splice.move_below]
      simp only [Location.below, ne_eq, not_true_eq_false, if_false, Path.mapBelow_append]
      split
      · rfl
      · rename_i hk
        simp [hk]
    · rw [Splice.move_eq_self _ _ fun k r hx => absurd hx (hnot k r)]
      split
      · rfl
      · rename_i htree
        dsimp only
        rw [Path.mapBelow_of_not_below]
        intro k r hx
        exact hnot k r (Location.eq_below_iff.mpr ⟨Decidable.not_not.mp htree, hx⟩)
  · show subject (insertBefore (a.below [i]) new) p = a.below [i]
    simp [subject, Location.below]

theorem splicesAt_detach {a : Location} {w : Tree} {i : Nat} (hw : p.subtree? a = some w)
    (hu : w.children[i]? = some u) : (detach (a.below [i])).SplicesAt p a w ⟨id, i, 1, []⟩ := by
  have hi : i < w.children.length := (List.getElem?_eq_some_iff.mp hu).1
  refine ⟨⟨hw, hi, ?_⟩, fun x _ => ?_, rfl, fun t ht => by cases ht⟩
  · have hout : (w.children.drop i).take 1 = [u] := by
      rw [List.take_one, List.head?_drop, hu]
      rfl
    rw [apply, location, subtree?_child hw hu, Splice.out, hout]
    dsimp only
    rw [splitLast?_child]
    show (p.modifyAt a _).trees ++ [u] = _
    rw [Page.modifyAt_congr hw]
    cases w
    simp [Tree.mapChildren, Splice.apply, Splice.row, List.eraseIdx_eq_take_drop_succ]
  · rw [relocate, location, subtree?_child hw hu]
    dsimp only
    rw [splitLast?_child]
    rcases below_cases a x with ⟨k, r, rfl⟩ | ⟨hnot, -⟩
    · rw [Splice.move_below]
      simp only [Location.below, ne_eq, not_true_eq_false, if_false, Path.mapBelow_append,
        Path.drop?_append, Path.drop?]
      rcases Nat.lt_trichotomy k i with hk | rfl | hk
      · simp [hk, Nat.ne_of_gt hk]
      · simp
      · have hle : ¬ k < i + 1 := by omega
        simp [hle, Nat.ne_of_lt hk, Nat.lt_asymm hk]
    · rw [Splice.move_eq_self _ _ fun k r hx => absurd hx (hnot k r)]
      split
      · rfl
      · rename_i htree
        have hbelow (k : Nat) (r : Path) : x.path ≠ a.path ++ k :: r := fun hx =>
          hnot k r (Location.eq_below_iff.mpr ⟨Decidable.not_not.mp htree, hx⟩)
        dsimp only
        split
        · rename_i rest hrest
          rw [Path.drop?_eq_some_iff, Location.below, List.append_assoc] at hrest
          exact absurd hrest (hbelow i rest)
        · rw [Path.mapBelow_of_not_below _ hbelow]

/-- A node is the top of a tree or a child of another node. -/
theorem top_or_child (h : p.subtree? l = some u) :
    l.path = [] ∨ ∃ a w i, l = a.below [i] ∧ p.subtree? a = some w ∧ w.children[i]? = some u := by
  obtain ⟨j, path⟩ := l
  rcases List.eq_nil_or_concat path with rfl | ⟨parent, i, hpath⟩
  · exact Or.inl rfl
  · rw [List.concat_eq_append] at hpath
    subst hpath
    have h' : p.subtree? (Location.below ⟨j, parent⟩ [i]) = some u := h
    rw [Page.subtree?_below, Option.bind_eq_some_iff] at h'
    obtain ⟨w, hw, hu⟩ := h'
    rw [Tree.subtree?_cons, Option.bind_eq_some_iff] at hu
    obtain ⟨c, hc, hcu⟩ := hu
    cases hcu
    exact Or.inr ⟨⟨j, parent⟩, w, i, rfl, hw, hc⟩

theorem site?_insertBefore (a : Location) (i : Nat) (new : Tree) :
    (insertBefore (a.below [i]) new).site? u = some (a, ⟨id, i, 0, [new]⟩) := by
  rw [site?, splitLast?_child]
  rfl

theorem site?_detach (a : Location) (i : Nat) :
    (detach (a.below [i])).site? u = some (a, ⟨id, i, 1, []⟩) := by
  rw [site?, splitLast?_child]
  rfl

theorem standsAlone_insertBefore (h : p.subtree? l = some u) (hl : l.path = []) (new : Tree) :
    (insertBefore l new).site? u = none ∧ (insertBefore l new).StandsAlone p := by
  have hlast : Path.splitLast? l.path = none := Path.splitLast?_eq_none_iff.mpr hl
  refine ⟨by rw [site?, hlast]; rfl, ?_, fun x => ?_, fun t _ => ?_⟩
  · rw [apply, location, h]
    dsimp only
    rw [hlast]
    rfl
  · rw [relocate, location, h]
    dsimp only
    rw [hlast]
    simp
  · show subject (insertBefore l new) p = _
    simp [subject, hl]

theorem standsAlone_detach (h : p.subtree? l = some u) (hl : l.path = []) :
    (detach l).site? u = none ∧ (detach l).StandsAlone p := by
  have hlast : Path.splitLast? l.path = none := Path.splitLast?_eq_none_iff.mpr hl
  refine ⟨by rw [site?, hlast]; rfl, ?_, fun x => ?_, fun t ht => by cases ht⟩
  · rw [apply, location, h]
    dsimp only
    rw [hlast]
    simp [Page.untie, new?]
  · rw [relocate, location, h]
    dsimp only
    rw [hlast]
    simp

/-- An edit is a splice, unless it is made at the top of a tree and needs the parent. -/
theorem splicesAt_or_standsAlone {e : Edit} (h : p.subtree? e.location = some u) :
    (∃ a w s, e.site? u = some (a, s) ∧ e.SplicesAt p a w s) ∨
      e.site? u = none ∧ e.StandsAlone p := by
  cases e with
  | setAttribute l name value =>
      refine Or.inl ⟨_, _, _, rfl, splicesAt_relabel h _ ?_ ?_ rfl⟩
      · rw [apply, h]
        rfl
      · intro x
        simp [relocate, h]
  | removeAttribute l name =>
      refine Or.inl ⟨_, _, _, rfl, splicesAt_relabel h _ ?_ ?_ rfl⟩
      · rw [apply, h]
        rfl
      · intro x
        simp [relocate, h]
  | setText l value => exact Or.inl ⟨_, _, _, rfl, splicesAt_setText h value⟩
  | append l new => exact Or.inl ⟨_, _, _, rfl, splicesAt_append h new⟩
  | insertBefore l new =>
      rcases top_or_child h with hl | ⟨a, w, i, rfl, hw, hu⟩
      · exact Or.inr (standsAlone_insertBefore h hl new)
      · exact Or.inl ⟨_, _, _, site?_insertBefore a i new, splicesAt_insertBefore hw hu new⟩
  | detach l =>
      rcases top_or_child h with hl | ⟨a, w, i, rfl, hw, hu⟩
      · exact Or.inr (standsAlone_detach h hl)
      · exact Or.inl ⟨_, _, _, site?_detach a i, splicesAt_detach hw hu⟩

theorem eq_below_of_splitLast? {k : Location} {q parent : Path} {i : Nat}
    (hlast : Path.splitLast? k.path = some (parent, i)) (h : ⟨k.tree, parent⟩ = l.below q) :
    k = l.below (q ++ [i]) := by
  rw [← Location.below_below, ← h, Location.eq_below_iff]
  exact ⟨rfl, Path.splitLast?_eq_some_iff.mp hlast⟩

/-- Seen from a node above, an edit is the same splice wherever this node stands. -/
theorem site?_atNode {e : Edit} {q : Path} {s : Splice} (h : e.site? u = some (l.below q, s)) :
    ∃ r, e.location = l.below r ∧
      ∀ m : Location, (e.atNode (m.below r)).site? u = some (m.below q, s) := by
  cases e with
  | setAttribute k name value =>
      cases h
      exact ⟨q, rfl, fun m => rfl⟩
  | removeAttribute k name =>
      cases h
      exact ⟨q, rfl, fun m => rfl⟩
  | setText k value =>
      cases h
      exact ⟨q, rfl, fun m => rfl⟩
  | append k new =>
      cases h
      exact ⟨q, rfl, fun m => rfl⟩
  | insertBefore k new =>
      rw [site?, Option.map_eq_some_iff] at h
      obtain ⟨⟨parent, i⟩, hlast, heq⟩ := h
      obtain ⟨hl, rfl⟩ := Prod.mk.inj heq
      refine ⟨q ++ [i], eq_below_of_splitLast? hlast hl, fun m => ?_⟩
      rw [← Location.below_below]
      exact site?_insertBefore (m.below q) i new
  | detach k =>
      rw [site?, Option.map_eq_some_iff] at h
      obtain ⟨⟨parent, i⟩, hlast, heq⟩ := h
      obtain ⟨hl, rfl⟩ := Prod.mk.inj heq
      refine ⟨q ++ [i], eq_below_of_splitLast? hlast hl, fun m => ?_⟩
      rw [← Location.below_below]
      exact site?_detach (m.below q) i

theorem splicesAt_of_site? {e : Edit} {s : Splice} {a : Location}
    (h : p.subtree? e.location = some u) (hsite : e.site? u = some (a, s)) :
    ∃ w, e.SplicesAt p a w s := by
  rcases splicesAt_or_standsAlone h with ⟨a', w, s', hsite', hs⟩ | ⟨hsite', -⟩
  · rw [hsite'] at hsite
    cases hsite
    exact ⟨w, hs⟩
  · rw [hsite'] at hsite
    cases hsite

/-! ### What an edit keeps -/

variable {e : Edit} {t : Tree}

/-- No two nodes come to stand in one place. -/
theorem relocate_injective (h : p.subtree? e.location = some u) {x y : Location}
    (hx : (p.subtree? x).isSome = true) (hy : (p.subtree? y).isSome = true)
    (heq : e.relocate p x = e.relocate p y) : x = y := by
  rcases splicesAt_or_standsAlone h with ⟨a, w, s, -, hs⟩ | ⟨-, hs⟩
  · rw [hs.relocate_eq x hx, hs.relocate_eq y hy] at heq
    obtain ⟨v, hv⟩ := Option.isSome_iff_exists.mp hx
    obtain ⟨v', hv'⟩ := Option.isSome_iff_exists.mp hy
    exact Splice.move_injective hs.madeAt.lt (Page.lt_of_subtree? hv) (Page.lt_of_subtree? hv') heq
  · rwa [hs.relocate_eq x, hs.relocate_eq y] at heq

/-- The new tree stands in its place. -/
theorem subtree?_newPlace (h : p.subtree? e.location = some u) (ht : e.new? = some t) :
    (e.apply p).subtree? (e.newPlace p) = some t := by
  rcases splicesAt_or_standsAlone h with ⟨a, w, s, -, hs⟩ | ⟨-, hs⟩
  · have hnews : s.news = [t] := by rw [hs.news_eq, ht]; rfl
    have hnew := hs.madeAt.subtree_new (j := 0) (by rw [hnews]; exact Nat.one_pos) []
    rw [hs.newPlace_eq t ht]
    rw [hnews] at hnew
    exact hnew
  · rw [hs.newPlace_eq t ht, Page.subtree?, hs.trees_eq, ht]
    simp [Tree.subtree?]

/-- Nothing else comes to stand there. -/
theorem relocate_ne_new (h : p.subtree? e.location = some u) (ht : e.new? = some t)
    {x : Location} (hx : (p.subtree? x).isSome = true) (q : Path) :
    e.relocate p x ≠ (e.newPlace p).below q := by
  obtain ⟨v, hv⟩ := Option.isSome_iff_exists.mp hx
  rcases splicesAt_or_standsAlone h with ⟨a, w, s, -, hs⟩ | ⟨-, hs⟩
  · have hnews : s.news = [t] := by rw [hs.news_eq, ht]; rfl
    rw [hs.relocate_eq x hx, hs.newPlace_eq t ht, Location.below_below]
    exact Splice.move_ne_new (j := 0) hs.madeAt.lt (by rw [hnews]; exact Nat.one_pos) q
  · rw [hs.relocate_eq x, hs.newPlace_eq t ht]
    rintro rfl
    exact absurd (Page.lt_of_subtree? hv) (Nat.lt_irrefl _)

/-- A node above the place of the splice stays where it is. -/
theorem SplicesAt.relocate_above {w : Tree} {s : Splice} {q : Path}
    (hs : e.SplicesAt p (l.below q) w s) (hl : (p.subtree? l).isSome = true) :
    e.relocate p l = l := by
  rw [hs.relocate_eq l hl, s.move_above _ rfl]

/-- The new children of a splice are the new tree. -/
theorem SplicesAt.new_child {a : Location} {w : Tree} {s : Splice} (hs : e.SplicesAt p a w s)
    {j : Nat} (hj : j < s.news.length) (r : Path) :
    ∃ t, e.new? = some t ∧ a.below ((s.index + j) :: r) = (e.newPlace p).below r ∧
      (e.apply p).subtree? (a.below ((s.index + j) :: r)) = t.subtree? r := by
  have hnew := hs.madeAt.subtree_new hj r
  rw [hs.news_eq] at hj hnew
  cases ht : e.new? with
  | none =>
      rw [ht] at hj
      exact absurd hj (Nat.not_lt_zero j)
  | some t =>
      rw [ht] at hj hnew
      obtain rfl : j = 0 := Nat.lt_one_iff.mp hj
      refine ⟨t, rfl, ?_, hnew⟩
      rw [hs.newPlace_eq t ht, Location.below_below]
      rfl

/-- The top of a tree stays where it is. -/
theorem relocate_top (h : p.subtree? e.location = some u) {i : Nat}
    (hi : (p.subtree? ⟨i, []⟩).isSome = true) : e.relocate p ⟨i, []⟩ = ⟨i, []⟩ := by
  rcases splicesAt_or_standsAlone h with ⟨a, w, s, -, hs⟩ | ⟨-, hs⟩
  · rw [hs.relocate_eq _ hi, s.move_eq_self]
    intro k r hx
    have hpath : [] = a.path ++ k :: r := congrArg Location.path hx
    simp at hpath
  · exact hs.relocate_eq _

/-- From a node that does not stand at or above the place of the splice nothing has changed. -/
theorem subtree?_relocate (h : p.subtree? e.location = some u) (hl : p.subtree? l = some t)
    (hnot : ∀ q s, e.site? u ≠ some (l.below q, s)) :
    (e.apply p).subtree? (e.relocate p l) = some t ∧
      ∀ r, (t.subtree? r).isSome = true → e.relocate p (l.below r) = (e.relocate p l).below r := by
  rcases splicesAt_or_standsAlone h with ⟨a, w, s, hsite, hs⟩ | ⟨-, hs⟩
  · have ha (q : Path) : a ≠ l.below q := by
      rintro rfl
      exact hnot q s hsite
    rw [hs.relocate_eq l (by rw [hl]; rfl)]
    refine ⟨hs.madeAt.subtree_move hl ha, fun r hr => ?_⟩
    rw [hs.relocate_eq (l.below r) (by rwa [Page.subtree?_below_of_eq hl])]
    exact Splice.move_along s _ ha r
  · rw [hs.relocate_eq l]
    refine ⟨?_, fun r _ => hs.relocate_eq (l.below r)⟩
    rw [Page.subtree?, hs.trees_eq, List.getElem?_append_left (Page.lt_of_subtree? hl)]
    exact hl

end Edit

end MarkupQuery
