import MarkupQuery.Proofs.Page.Edit

/-!
# Pages with nodes in common

Two pages can have nodes in common without having them in the same places. `Page.Alike` says what
such nodes have to satisfy: the same part of a tree stands below both, the nodes below are in common
too, and a node of one page is no more than one node of the other. The same edit made in both pages
keeps this, wherever its node stands in them (`Page.Alike.edit`), and so does any change of one of
the pages that carries the nodes along with all below them (`Page.Alike.carry`).
-/

namespace MarkupQuery

/-- Whether a change of a page carries nodes along with all that stands below them. Where `move` has
no answer, the node is not carried. -/
structure Page.Carries (p p' : Page) (move : Location → Option Location) : Prop where
  subtree {l x : Location} {t : Tree} : move l = some x → p.subtree? l = some t →
    p'.subtree? x = some t
  below {l x : Location} {q : Path} : move l = some x → (p.subtree? (l.below q)).isSome = true →
    move (l.below q) = some (x.below q)
  injective {l m x : Location} : (p.subtree? l).isSome = true → (p.subtree? m).isSome = true →
    move l = some x → move m = some x → l = m

/-- Whether nodes of two pages are in common. -/
structure Page.Alike (p p' : Page) (same : Location → Location → Prop) : Prop where
  subtree {l m : Location} : same l m → ∃ t, p.subtree? l = some t ∧ p'.subtree? m = some t
  below {l m : Location} {q : Path} : same l m → (p.subtree? (l.below q)).isSome = true →
    same (l.below q) (m.below q)
  left_unique {l l' m : Location} : same l m → same l' m → l = l'
  right_unique {l m m' : Location} : same l m → same l m' → m = m'

/-- The nodes that two pages have in common after an edit of both: those that were in common before,
and the nodes of the new tree. -/
inductive Edit.Leaves (e e' : Edit) (p p' : Page) (same : Location → Location → Prop)
    (x y : Location) : Prop where
  | old {l m : Location} (h : same l m) (hx : e.relocate p l = x) (hy : e'.relocate p' m = y)
  | new {t : Tree} {q : Path} (ht : e.new? = some t) (hq : (t.subtree? q).isSome = true)
    (hx : (e.newPlace p).below q = x) (hy : (e'.newPlace p').below q = y)

namespace Edit

variable {e e' : Edit} {p p' : Page} {same : Location → Location → Prop} {x y : Location}

theorem Leaves.flip (hnew : e'.new? = e.new?) (h : e.Leaves e' p p' same x y) :
    e'.Leaves e p' p (fun m l => same l m) y x := by
  cases h with
  | old h hx hy => exact .old h hy hx
  | new ht hq hx hy => exact .new (hnew.trans ht) hq hy hx

end Edit

namespace Page

theorem Carries.refl (p : Page) : p.Carries p some where
  subtree := by
    rintro l _ t ⟨⟩ h
    exact h
  below := by
    rintro l _ q ⟨⟩ -
    rfl
  injective := by
    rintro l m x - - ⟨⟩ ⟨⟩
    rfl

theorem Carries.trans {p p' p'' : Page} {move move' : Location → Option Location}
    (h : p.Carries p' move) (h' : p'.Carries p'' move') :
    p.Carries p'' fun l => (move l).bind move' where
  subtree := by
    intro l x t hx ht
    obtain ⟨y, hy, hx⟩ := Option.bind_eq_some_iff.mp hx
    exact h'.subtree hx (h.subtree hy ht)
  below := by
    intro l x q hx hq
    obtain ⟨y, hy, hx⟩ := Option.bind_eq_some_iff.mp hx
    have hyq := h.below hy hq
    obtain ⟨t, ht⟩ := Option.isSome_iff_exists.mp hq
    refine Option.bind_eq_some_iff.mpr ⟨_, hyq, h'.below hx ?_⟩
    rw [h.subtree hyq ht]
    rfl
  injective := by
    intro l m x hl hm hlx hmx
    obtain ⟨y, hy, hlx⟩ := Option.bind_eq_some_iff.mp hlx
    obtain ⟨z, hz, hmx⟩ := Option.bind_eq_some_iff.mp hmx
    obtain ⟨t, ht⟩ := Option.isSome_iff_exists.mp hl
    obtain ⟨t', ht'⟩ := Option.isSome_iff_exists.mp hm
    obtain rfl : y = z := h'.injective (by rw [h.subtree hy ht]; rfl)
      (by rw [h.subtree hz ht']; rfl) hlx hmx
    exact h.injective hl hm hy hz

namespace Alike

variable {p p' : Page} {same : Location → Location → Prop} {l m : Location}

/-- A page has all its nodes in common with itself. -/
theorem refl (p : Page) : p.Alike p fun l m => l = m ∧ (p.subtree? l).isSome = true where
  subtree := by
    rintro l _ ⟨rfl, hl⟩
    obtain ⟨t, ht⟩ := Option.isSome_iff_exists.mp hl
    exact ⟨t, ht, ht⟩
  below := by
    rintro l _ q ⟨rfl, -⟩ hq
    exact ⟨rfl, hq⟩
  left_unique := by
    rintro l l' m ⟨rfl, -⟩ ⟨rfl, -⟩
    rfl
  right_unique := by
    rintro l m m' ⟨rfl, -⟩ ⟨rfl, -⟩
    rfl

theorem isSome_left (h : p.Alike p' same) (hlm : same l m) : (p.subtree? l).isSome = true := by
  obtain ⟨t, ht, -⟩ := h.subtree hlm
  rw [ht]
  rfl

theorem isSome_right (h : p.Alike p' same) (hlm : same l m) : (p'.subtree? m).isSome = true := by
  obtain ⟨t, -, ht⟩ := h.subtree hlm
  rw [ht]
  rfl

/-- The other way round. -/
theorem flip (h : p.Alike p' same) : p'.Alike p fun m l => same l m where
  subtree := by
    intro m l hlm
    obtain ⟨t, ht, ht'⟩ := h.subtree hlm
    exact ⟨t, ht', ht⟩
  below := by
    intro m l q hlm hq
    obtain ⟨t, ht, ht'⟩ := h.subtree hlm
    refine h.below hlm ?_
    rw [subtree?_below_of_eq ht]
    rwa [subtree?_below_of_eq ht'] at hq
  left_unique := h.right_unique
  right_unique := h.left_unique

/-- A change of one page that carries nodes along keeps those in common that it carries. -/
theorem carry {q : Page} {move : Location → Option Location} (h : p.Alike p' same)
    (hmove : p.Carries q move) : q.Alike p' fun x m => ∃ l, same l m ∧ move l = some x where
  subtree := by
    rintro x m ⟨l, hlm, hx⟩
    obtain ⟨t, ht, ht'⟩ := h.subtree hlm
    exact ⟨t, hmove.subtree hx ht, ht'⟩
  below := by
    rintro x m r ⟨l, hlm, hx⟩ hr
    obtain ⟨t, ht, ht'⟩ := h.subtree hlm
    rw [subtree?_below_of_eq (hmove.subtree hx ht), ← subtree?_below_of_eq ht] at hr
    exact ⟨l.below r, h.below hlm hr, hmove.below hx hr⟩
  left_unique := by
    rintro x y m ⟨l, hlm, hx⟩ ⟨k, hkm, hy⟩
    obtain rfl := h.left_unique hlm hkm
    exact Option.some.inj (hx.symm.trans hy)
  right_unique := by
    rintro x m n ⟨l, hlm, hx⟩ ⟨k, hkn, hy⟩
    obtain rfl := hmove.injective (h.isSome_left hlm) (h.isSome_left hkn) hx hy
    exact h.right_unique hlm hkn

/-! ### The same edit in both pages -/

section

variable {e : Edit} {u : Tree}

theorem exists_part (h : p.Alike p' same) {k : Location} (hk : same e.location k) :
    ∃ u, p.subtree? e.location = some u ∧ p'.subtree? (e.atNode k).location = some u := by
  rw [Edit.location_atNode]
  exact h.subtree hk

/-- If the node of an edit is in common, the edit is the same splice seen from any node in common,
if it is seen from there at all. -/
theorem site?_eq (h : p.Alike p' same) {k : Location} (hk : same e.location k) (hlm : same l m)
    (hu : p.subtree? e.location = some u) {q : Path} {s : Splice}
    (hsite : e.site? u = some (l.below q, s)) : (e.atNode k).site? u = some (m.below q, s) := by
  obtain ⟨r, hr, hat⟩ := Edit.site?_atNode hsite
  rw [hr] at hk hu
  rw [h.right_unique hk (h.below hlm (by rw [hu]; rfl)), hat m]

/-- After the same edit the same part of a tree stands below two nodes in common, and the nodes
below are in common. -/
theorem leaves_below (h : p.Alike p' same) {k : Location} (hk : same e.location k)
    (hlm : same l m) :
    ∃ t, (e.apply p).subtree? (e.relocate p l) = some t ∧
      ((e.atNode k).apply p').subtree? ((e.atNode k).relocate p' m) = some t ∧
      ∀ r, (t.subtree? r).isSome = true → e.Leaves (e.atNode k) p p' same
        ((e.relocate p l).below r) (((e.atNode k).relocate p' m).below r) := by
  obtain ⟨u, hu, hu'⟩ := h.exists_part hk
  obtain ⟨t, ht, ht'⟩ := h.subtree hlm
  by_cases hseen : ∃ q s, e.site? u = some (l.below q, s)
  · obtain ⟨q, s, hsite⟩ := hseen
    obtain ⟨w, hs⟩ := Edit.splicesAt_of_site? hu hsite
    obtain ⟨w', hs'⟩ := Edit.splicesAt_of_site? hu' (h.site?_eq hk hlm hu hsite)
    have hl := hs.relocate_above (h.isSome_left hlm)
    have hm := hs'.relocate_above (h.isSome_right hlm)
    rw [hl, hm]
    refine ⟨t.modifyAt s.apply q, hs.madeAt.subtree_above ht rfl, hs'.madeAt.subtree_above ht' rfl,
      fun r hr => ?_⟩
    rcases hs.madeAt.exists_of_subtree_above ht rfl hr with ⟨r₀, hr₀, hmove⟩ | ⟨j, r₀, hj, rfl⟩
    · -- a node that was there before
      have hlr : (p.subtree? (l.below r₀)).isSome = true := by
        rwa [subtree?_below_of_eq ht]
      have hmr : (p'.subtree? (m.below r₀)).isSome = true := by
        rwa [subtree?_below_of_eq ht']
      refine .old (h.below hlm hlr) ?_ ?_
      · rw [hs.relocate_eq _ hlr, hmove]
      · rw [hs'.relocate_eq _ hmr, hmove]
    · -- a node of the new tree
      obtain ⟨new, hnew, hplace, hsub⟩ := hs.new_child hj r₀
      obtain ⟨-, -, hplace', -⟩ := hs'.new_child hj r₀
      rw [Location.below_below] at hplace hplace' hsub
      refine .new hnew ?_ hplace.symm hplace'.symm
      rwa [← hsub, subtree?_below_of_eq (hs.madeAt.subtree_above ht rfl)]
  · have hnot (q : Path) (s : Splice) : e.site? u ≠ some (l.below q, s) := fun hsite =>
      hseen ⟨q, s, hsite⟩
    have hnot' (q : Path) (s : Splice) : (e.atNode k).site? u ≠ some (m.below q, s) := by
      intro hsite
      refine hnot q s ?_
      have hback := h.flip.site?_eq (e := e.atNode k) (k := e.location)
        (by rw [Edit.location_atNode]; exact hk) hlm hu' hsite
      rwa [Edit.atNode_atNode, Edit.atNode_location] at hback
    obtain ⟨hl, hlr⟩ := Edit.subtree?_relocate hu ht hnot
    obtain ⟨hm, hmr⟩ := Edit.subtree?_relocate hu' ht' hnot'
    refine ⟨t, hl, hm, fun r hr => ?_⟩
    refine .old (h.below hlm ?_) (hlr r hr) (hmr r hr)
    rwa [subtree?_below_of_eq ht]

/-- Tops of trees that are in common stay so, where they are. -/
theorem leaves_top (h : p.Alike p' same) {k : Location} (hk : same e.location k) {i j : Nat}
    (hij : same ⟨i, []⟩ ⟨j, []⟩) : e.Leaves (e.atNode k) p p' same ⟨i, []⟩ ⟨j, []⟩ := by
  obtain ⟨u, hu, hu'⟩ := h.exists_part hk
  exact .old hij (Edit.relocate_top hu (h.isSome_left hij))
    (Edit.relocate_top hu' (h.isSome_right hij))

theorem leaves_unique (h : p.Alike p' same) {e' : Edit} (hu : p.subtree? e.location = some u)
    {x y y' : Location} (hy : e.Leaves e' p p' same x y) (hy' : e.Leaves e' p p' same x y') :
    y = y' := by
  rcases hy with ⟨hlm, rfl, rfl⟩ | ⟨ht, -, rfl, rfl⟩ <;>
    rcases hy' with ⟨hlm', hx, rfl⟩ | ⟨ht', -, hx, rfl⟩
  · obtain rfl := Edit.relocate_injective hu (h.isSome_left hlm') (h.isSome_left hlm) hx
    rw [h.right_unique hlm hlm']
  · exact absurd hx.symm (Edit.relocate_ne_new hu ht' (h.isSome_left hlm) _)
  · exact absurd hx (Edit.relocate_ne_new hu ht (h.isSome_left hlm') _)
  · rw [Location.below_inj.mp hx]

/-- The same edit of both pages keeps what they have in common, and the new nodes are in common
too. -/
theorem edit (h : p.Alike p' same) {k : Location} (hk : same e.location k) :
    (e.apply p).Alike ((e.atNode k).apply p') (e.Leaves (e.atNode k) p p' same) := by
  obtain ⟨u, hu, hu'⟩ := h.exists_part hk
  have hnew {t : Tree} (ht : e.new? = some t) : (e.atNode k).new? = some t := by
    rw [Edit.new?_atNode, ht]
  constructor
  case subtree =>
    rintro _ _ (@⟨l, m, hlm, rfl, rfl⟩ | @⟨t, q, ht, hq, rfl, rfl⟩)
    · obtain ⟨t, hl, hm, -⟩ := h.leaves_below hk hlm
      exact ⟨t, hl, hm⟩
    · obtain ⟨v, hv⟩ := Option.isSome_iff_exists.mp hq
      refine ⟨v, ?_, ?_⟩
      · rwa [subtree?_below_of_eq (Edit.subtree?_newPlace hu ht)]
      · rwa [subtree?_below_of_eq (Edit.subtree?_newPlace hu' (hnew ht))]
  case below =>
    rintro _ _ r (@⟨l, m, hlm, rfl, rfl⟩ | @⟨t, q, ht, hq, rfl, rfl⟩) hr
    · obtain ⟨t, hl, -, hbelow⟩ := h.leaves_below hk hlm
      rw [subtree?_below_of_eq hl] at hr
      exact hbelow r hr
    · rw [Location.below_below] at hr
      refine .new ht ?_ (Location.below_below ..).symm (Location.below_below ..).symm
      rwa [subtree?_below_of_eq (Edit.subtree?_newPlace hu ht)] at hr
  case left_unique =>
    intro x x' y hx hx'
    have hflip : (e.atNode k).new? = e.new? := Edit.new?_atNode e k
    exact h.flip.leaves_unique hu' (hx.flip hflip) (hx'.flip hflip)
  case right_unique =>
    intro x y y' hy hy'
    exact h.leaves_unique hu hy hy'

end

end Alike

end Page

end MarkupQuery
