import Mathlib.Data.List.Nodup
import MarkupQuery.Proofs.Page.Remains
import MarkupQuery.Proofs.Session.History

/-!
# Following nodes through a step

A step of a session can move nodes, and it can let them go: when findings are kept, a tree that was
taken out of the page falls to pieces if nobody holds its top any more, and what stands above the
nodes that are held is gone. `Session.after?` says where a node stands after a step, if it is still
there. A step other than an edit carries along all nodes that are still there
(`Session.carries_step`), and nothing that is held is ever let go (`Session.held_record`).
-/

namespace MarkupQuery

namespace Session

/-- The trees that hold findings but do not stay. -/
def gone (s : Session) : List Nat :=
  (s.held.map Location.tree).eraseDups.filter (!(s.page.stays s.held).contains ·)

/-- Where the node of a location stands after trees have been broken up one after the other, if it
stays. -/
def afterBreakUps? (s : Session) : List Nat → Location → Option Location
  | [], l => some l
  | i :: is, l => (s.page.afterBreakUp? s.held i l).bind ((s.breakUp i).afterBreakUps? is)

/-- A session before it lets go what nobody holds on to. -/
def keep (s : Session) (found : List Finding) : Session :=
  { s with findings := s.findings ++ [found] }

/-- Where the node of a location stands after a step, if it is still there. -/
def after? (s : Session) (st : Step) (l : Location) : Option Location :=
  match st with
  | .ask _ | .withMarkers _ => some l
  | .edit e => some (e.relocate s.page l)
  | .record found => (s.keep found).afterBreakUps? (s.keep found).gone l

variable {s : Session}

theorem carries_breakUps (s : Session) (is : List Nat) :
    s.page.Carries (is.foldl breakUp s).page (s.afterBreakUps? is) := by
  induction is generalizing s with
  | nil => exact .refl s.page
  | cons i is ih => exact (s.page.carries_breakUp s.held i).trans (ih (s.breakUp i))

/-- A step other than an edit carries along all nodes that are still there. -/
theorem carries_step (s : Session) {st : Step} (hst : ∀ e, st ≠ .edit e) :
    s.page.Carries (s.step st).page (s.after? st) := by
  cases st with
  | ask a =>
      rw [step, page_ask]
      exact .refl s.page
  | edit e => exact absurd rfl (hst e)
  | withMarkers markers => exact .refl s.page
  | record found => exact carries_breakUps (s.keep found) _

/-! ### Trees that stay -/

/-- A tree stays if it stays whatever is in front of it. -/
theorem mem_stays {p : Page} {held : List Location} {i : Nat} (hi : i < p.trees.length)
    (h : ∀ earlier, p.staysAfter held earlier i = true) : i ∈ p.stays held := by
  have hkeep (is earlier : List Nat) (hmem : i ∈ earlier ∨ i ∈ is) : i ∈ is.foldl
      (fun earlier i => if p.staysAfter held earlier i then i :: earlier else earlier) earlier := by
    induction is generalizing earlier with
    | nil => simpa using hmem
    | cons j is ih =>
        refine ih _ ?_
        dsimp only
        rcases hmem with hmem | hmem
        · left
          split
          · exact List.mem_cons_of_mem j hmem
          · exact hmem
        · rcases List.mem_cons.mp hmem with rfl | hmem
          · left
            rw [if_pos (h earlier)]
            exact List.mem_cons_self
          · exact Or.inr hmem
  exact hkeep _ [] (Or.inr (List.mem_range.mpr hi))

theorem notMem_gone {i : Nat} (hi : i < s.page.trees.length)
    (h : ∀ earlier, s.page.staysAfter s.held earlier i = true) : i ∉ s.gone := by
  intro hgone
  obtain ⟨-, hnot⟩ := List.mem_filter.mp hgone
  simp [mem_stays hi h] at hnot

theorem afterBreakUps?_of_notMem {is : List Nat} {l : Location} (h : l.tree ∉ is) (s : Session) :
    s.afterBreakUps? is l = some l := by
  induction is generalizing s with
  | nil => rfl
  | cons i is ih =>
      obtain ⟨hi, his⟩ := not_or.mp fun hmem => h (List.mem_cons.mpr hmem)
      rw [afterBreakUps?, Page.afterBreakUp?_of_ne hi]
      exact ih his _

/-- The top of the tree that the page was opened with stays where it is. -/
theorem after?_root (h : (s.page.subtree? .root).isSome = true) {st : Step}
    (hst : ∀ e, st ≠ .edit e) : s.after? st .root = some .root := by
  cases st with
  | ask a => rfl
  | edit e => exact absurd rfl (hst e)
  | withMarkers markers => rfl
  | record found =>
      obtain ⟨t, ht⟩ := Option.isSome_iff_exists.mp h
      refine afterBreakUps?_of_notMem ?_ _
      exact notMem_gone (s := s.keep found) (Page.lt_of_subtree? ht) fun earlier => rfl

/-! ### What is held -/

theorem held?_relocate (move : Location → Location) (f : Finding) :
    (f.relocate move).held? = f.held?.map move := by
  cases f <;> rfl

theorem held_breakUp (s : Session) (i : Nat) :
    (s.breakUp i).held = s.held.map (s.page.afterBreakUp s.held i) := by
  show (s.findings.map (List.map _)).flatten.filterMap Finding.held? =
    (s.findings.flatten.filterMap Finding.held?).map _
  rw [← List.map_flatten, List.filterMap_map, List.map_filterMap]
  congr 1
  funext f
  exact held?_relocate _ f

/-- Whether all that is held is on the page. -/
def HoldsNodes (s : Session) : Prop := ∀ l ∈ s.held, (s.page.subtree? l).isSome = true

theorem afterBreakUp?_of_mem_held (h : s.HoldsNodes) {i : Nat} (hi : ⟨i, []⟩ ∉ s.held)
    {l : Location} (hl : l ∈ s.held) :
    s.page.afterBreakUp? s.held i l = some (s.page.afterBreakUp s.held i l) := by
  have hsome := Page.isSome_afterBreakUp? (h l hl) hl (i := i) fun heq => hi (heq ▸ hl)
  obtain ⟨x, hx⟩ := Option.isSome_iff_exists.mp hsome
  rw [Page.afterBreakUp_eq, hx]
  rfl

theorem HoldsNodes.breakUp (h : s.HoldsNodes) {i : Nat} (hi : ⟨i, []⟩ ∉ s.held) :
    (s.breakUp i).HoldsNodes := by
  intro x hx
  rw [held_breakUp] at hx
  obtain ⟨l, hl, rfl⟩ := List.mem_map.mp hx
  obtain ⟨t, ht⟩ := Option.isSome_iff_exists.mp (h l hl)
  have hsub := (s.page.carries_breakUp s.held i).subtree (afterBreakUp?_of_mem_held h hi hl) ht
  show ((s.page.breakUp s.held i).subtree? _).isSome = true
  rw [hsub]
  rfl

/-- Breaking up a tree puts no held node on top of a tree that was there before. -/
theorem notMem_held_breakUp (h : s.HoldsNodes) {i j : Nat} (hi : ⟨i, []⟩ ∉ s.held)
    (hj : ⟨j, []⟩ ∉ s.held) (hlt : j < s.page.trees.length) : ⟨j, []⟩ ∉ (s.breakUp i).held := by
  rw [held_breakUp]
  intro hmem
  obtain ⟨l, hl, hx⟩ := List.mem_map.mp hmem
  have hafter := afterBreakUp?_of_mem_held h hi hl
  rw [hx] at hafter
  by_cases htree : l.tree = i
  · obtain ⟨k, q, r, -, -, heq⟩ := (Page.afterBreakUp?_eq_some_iff htree).mp hafter
    have hindex : j = s.page.trees.length + k := congrArg Location.tree heq
    omega
  · rw [Page.afterBreakUp?_of_ne htree] at hafter
    exact hj (Option.some.inj hafter ▸ hl)

theorem nodup_eraseDups : ∀ is : List Nat, is.eraseDups.Nodup
  | [] => by simp
  | i :: is => by
      rw [List.eraseDups_cons, List.nodup_cons, List.mem_eraseDups]
      exact ⟨by simp, nodup_eraseDups _⟩
  termination_by is => is.length
  decreasing_by exact Nat.lt_succ_of_le (List.length_filter_le _ _)

theorem held_breakUps {is : List Nat} (hnodup : is.Nodup) (h : s.HoldsNodes)
    (his : ∀ i ∈ is, i < s.page.trees.length ∧ ⟨i, []⟩ ∉ s.held) :
    (is.foldl breakUp s).held.map some = s.held.map (s.afterBreakUps? is) := by
  induction is generalizing s with
  | nil => rfl
  | cons i is ih =>
      obtain ⟨hi, hnodup⟩ := List.nodup_cons.mp hnodup
      obtain ⟨⟨-, htop⟩, his⟩ := List.forall_mem_cons.mp his
      have hrest (j : Nat) (hj : j ∈ is) :
          j < (s.breakUp i).page.trees.length ∧ ⟨j, []⟩ ∉ (s.breakUp i).held := by
        obtain ⟨hlt, hnot⟩ := his j hj
        refine ⟨?_, notMem_held_breakUp h htop hnot hlt⟩
        show j < (s.page.breakUp s.held i).trees.length
        rw [Page.trees_breakUp, List.length_append]
        omega
      rw [List.foldl_cons, ih hnodup (h.breakUp htop) hrest, held_breakUp, List.map_map]
      refine List.map_congr_left fun l hl => ?_
      rw [afterBreakUps?, afterBreakUp?_of_mem_held h htop hl]
      rfl

/-- Nothing that is held is let go: after a step that keeps findings, the findings hold the nodes
that they held before, where these stand then. -/
theorem held_record (s : Session) (found : List Finding) (h : (s.keep found).HoldsNodes) :
    (s.step (.record found)).held.map some =
      (s.keep found).held.map (s.after? (.record found)) := by
  refine held_breakUps (s := s.keep found) ?_ h fun i hi => ?_
  · exact (nodup_eraseDups _).filter _
  · obtain ⟨hmem, -⟩ := List.mem_filter.mp hi
    obtain ⟨l, hl, rfl⟩ := List.mem_map.mp (List.mem_eraseDups.mp hmem)
    obtain ⟨t, ht⟩ := Option.isSome_iff_exists.mp (h l hl)
    have hlt := Page.lt_of_subtree? ht
    refine ⟨hlt, fun htop => ?_⟩
    refine notMem_gone hlt (fun earlier => ?_) hi
    simp [Page.staysAfter, htop]

end Session

end MarkupQuery
