import Mathlib
import MarkupQuery.Proofs.Session.Outcome
import MarkupQuery.Proofs.Session.Views

/-!
# Views in views

Whatever a locator with a selector finds stands below the node that is asked
(`Search.place_of_answer`), and the tree below a node is higher than the tree below anything that
stands below it (`Cursor.height_lt_of_below`). So in a sequence of views, each of them found by a
question of the one before it, every step costs some height, and there are no more steps than the
tree below the first view is high (`Session.nesting_ends`).
-/

namespace MarkupQuery

namespace Tree

mutual

/-- How many steps down lead from the top of a tree to the deepest nodes in it. -/
def height : Tree → Nat
  | node _ cs => heightOfAll cs

/-- How many steps down lead from a node to the deepest nodes in the trees right below it. -/
def heightOfAll : List Tree → Nat
  | [] => 0
  | t :: ts => max (t.height + 1) (heightOfAll ts)

end

theorem height_lt_of_mem {t : Tree} {ts : List Tree} (h : t ∈ ts) : t.height < heightOfAll ts := by
  induction ts with
  | nil => cases h
  | cons u ts ih =>
      rw [heightOfAll]
      rcases List.mem_cons.mp h with rfl | h
      · omega
      · have hlt := ih h
        omega

end Tree

namespace Cursor

variable {c d : Cursor}

theorem height_lt_of_parent? (h : d.parent? = some c) : d.focus.height < c.focus.height := by
  obtain ⟨t, _ | ⟨⟨l, before, after⟩, above⟩⟩ := d
  · cases h
  · cases h
    show t.height < Tree.height (.node l (before.reverse ++ t :: after))
    rw [Tree.height]
    exact Tree.height_lt_of_mem (by simp)

/-- The tree below a node is higher than the tree below anything that stands below it. -/
theorem height_lt_of_below (h : c.Below d) : d.focus.height < c.focus.height := by
  induction h with
  | child h => exact height_lt_of_parent? h
  | down h _ ih => exact (height_lt_of_parent? h).trans ih

end Cursor

/-! ### Where a search finds something -/

namespace Search

open Css

variable {entries : SelectorList} {scope : Cursor} {l : Locator} {want : Want}

theorem Target.isElement {childScoped : Bool} {d : Cursor}
    (h : Target entries scope childScoped d) : d.isElement = true := by
  cases h with
  | below _ hmatch =>
      obtain ⟨e, -, he⟩ := hmatch
      exact he.isElement
  | hanging _ hang =>
      obtain ⟨e, -, he⟩ := hang
      exact Compound.isElement_of_holds he.1
  | child _ _ hmatch =>
      obtain ⟨e, -, he⟩ := hmatch
      exact he.isElement

/-- What a search finds is the scope if the locator means the scope, and elements below the scope
otherwise. -/
theorem place_of_answer {paths : List Path} (h : answer l scope want = .ok paths) {p : Path}
    (hp : p ∈ paths) :
    (MeansScope l ∧ p = scope.path) ∨
      (¬ MeansScope l ∧ ∃ d, scope.Below d ∧ d.isElement = true ∧ p = d.path) := by
  rcases answer_cases l scope want with ⟨hmeans, hanswer⟩ | ⟨-, -, hanswer⟩ |
    ⟨entries, hread, hanswer⟩
  · rw [hanswer] at h
    cases h
    exact .inl ⟨hmeans, List.mem_singleton.mp hp⟩
  · rw [hanswer] at h
    cases h
  · rw [hanswer] at h
    rw [eq_of_orNoMatch h] at hp
    obtain ⟨d, hd, rfl⟩ := List.mem_map.mp (mem_of_mem_cut hp)
    have htarget := mem_targets.mp hd
    exact .inr ⟨not_meansScope_of_ofText? hread, d, htarget.below_scope, htarget.isElement, rfl⟩

/-- A search fails with the selector if it cannot be read, and with no match otherwise. -/
theorem error_of_answer {e : Error} (h : answer l scope want = .error e) :
    (SelectorList.ofText? l.css = none ∧ e = .badSelector l.css) ∨
      ((SelectorList.ofText? l.css).isSome = true ∧ e = .noMatch l.css (sought l want)) := by
  rcases answer_cases l scope want with ⟨-, hanswer⟩ | ⟨-, hread, hanswer⟩ |
    ⟨entries, hread, hanswer⟩
  · rw [hanswer] at h
    cases h
  · rw [hanswer] at h
    cases h
    exact .inl ⟨hread, rfl⟩
  · rw [hanswer] at h
    exact .inr ⟨by rw [hread]; rfl, (orNoMatch_targets_eq_error_iff.mp h).2⟩

/-- Nothing is found below a node without children. -/
theorem exists_error_of_height_eq_zero (hheight : scope.focus.height = 0) (hmeans : ¬ MeansScope l) :
    ∃ e, answer l scope want = .error e := by
  by_contra hno
  have hok (e : Error) : answer l scope want ≠ .error e := fun h => hno ⟨e, h⟩
  obtain ⟨paths, hne, h⟩ := exists_of_answer (hok _) (hok _)
  obtain ⟨p, hp⟩ := List.exists_mem_of_ne_nil paths hne
  rcases place_of_answer h hp with ⟨hmeans', -⟩ | ⟨-, d, hbelow, -⟩
  · exact hmeans hmeans'
  · have hlt := Cursor.height_lt_of_below hbelow
    omega

end Search

namespace Session

variable {s : Session} {v x : View} {a : Ask} {q : Query} {l : Locator}

/-! ### One step -/

/-- What a query answers is a function of the place that it is asked of. -/
theorem resolve_eq_answer {source : Nat} {scope : Location} {cursor : Cursor}
    (huse : s.CanUse source scope) (hl : Locator.parse? q.locator = some l)
    (hcursor : s.page.cursor? scope = some cursor) (want : Want) :
    (s.resolve source scope q want).2 = (Search.answer l cursor want).map fun paths =>
      paths.map fun path => findingAt s.page l q.component? source ⟨scope.tree, path⟩ := by
  obtain ⟨markers, hsource, hm, hfree⟩ := huse
  rw [resolve_eq_map hl hcursor hsource,
    Search.answer_find hm (hfree _ (Page.top_of_cursor? hcursor))]

/-- What answers with a finding is asked of a node of the page. -/
theorem exists_cursor_of_asks (ha : v.Asks a q) {found : List Finding}
    (h : (s.ask a).2 = .ok found) : ∃ c, s.page.cursor? v.container = some c := by
  obtain ⟨want, hask⟩ := ha.ask_eq_resolve
  rw [hask] at h
  obtain ⟨-, c, -, -, -, hc, -⟩ := exists_of_resolve_eq_ok h
  exact ⟨c, hc⟩

/-- A view that a view finds stands on the same node if the locator means the scope, and on an
element below it otherwise. -/
theorem place_of_asks (ha : v.Asks a q) (hl : Locator.parse? q.locator = some l)
    (huse : s.CanUse v.source v.container) {found : List Finding} (h : (s.ask a).2 = .ok found)
    (hx : .view x ∈ found) {c : Cursor} (hc : s.page.cursor? v.container = some c) :
    (Search.MeansScope l ∧ x.container = v.container) ∨
      (¬ Search.MeansScope l ∧ ∃ d, s.page.cursor? x.container = some d ∧
        x.container.tree = v.container.tree ∧ c.Below d ∧ d.isElement = true) := by
  obtain ⟨want, hask⟩ := ha.ask_eq_resolve
  rw [hask, resolve_eq_answer huse hl hc] at h
  cases hanswer : Search.answer l c want with
  | error e =>
      rw [hanswer] at h
      cases h
  | ok paths =>
      rw [hanswer] at h
      cases h
      obtain ⟨path, hpath, hfinding⟩ := List.mem_map.mp hx
      obtain ⟨-, k, -, rfl⟩ := findingAt_eq_view hfinding
      rcases Search.place_of_answer hanswer hpath with ⟨hmeans, rfl⟩ | ⟨hmeans, d, hbelow, hel, rfl⟩
      · refine .inl ⟨hmeans, ?_⟩
        rw [Page.path_of_cursor? hc]
      · refine .inr ⟨hmeans, d, Page.cursor?_path ?_, rfl, hbelow, hel⟩
        rw [hbelow.top]
        exact Page.top_of_cursor? hc

theorem container_eq_iff (ha : v.Asks a q) (hl : Locator.parse? q.locator = some l)
    (huse : s.CanUse v.source v.container) {found : List Finding} (h : (s.ask a).2 = .ok found)
    (hx : .view x ∈ found) {c : Cursor} (hc : s.page.cursor? v.container = some c) :
    x.container = v.container ↔ Search.MeansScope l := by
  rcases place_of_asks ha hl huse h hx hc with ⟨hmeans, heq⟩ | ⟨hmeans, d, hd, -, hbelow, -⟩
  · exact iff_of_true heq hmeans
  · refine iff_of_false (fun heq => ?_) hmeans
    rw [heq, hc] at hd
    cases hd
    exact Cursor.Below.not_self hbelow

/-! ### Sequences of views -/

/-- Whether a question of a view asks for something in its node: its query has a locator with a
selector, and the source of the view can be used. -/
structure AsksInside (s : Session) (v : View) (a : Ask) (l : Locator) : Prop where
  asks : ∃ q, v.Asks a q ∧ Locator.parse? q.locator = some l
  named : l.css ≠ ""
  usable : s.CanUse v.source v.container

/-- A sequence of views in a tree that stays as it is, with the number of its steps: each view is
found by a question of the one before it that asks for something in the node of that view. -/
inductive Nesting (t : Tree) (v : View) : Nat → View → Prop where
  | start : Nesting t v 0 v
  | nest {n : Nat} {w x : View} {s : Session} {a : Ask} {l : Locator} {found : List Finding}
      (h : Nesting t v n w) (htree : s.page.trees[w.container.tree]? = some t)
      (ha : s.AsksInside w a l) (hanswer : (s.ask a).2 = .ok found) (hx : .view x ∈ found) :
      Nesting t v (n + 1) x

theorem cursor?_eq {t : Tree} (htree : s.page.trees[v.container.tree]? = some t) :
    s.page.cursor? v.container = t.cursor? v.container.path := by
  rw [Page.cursor?, htree]
  rfl

/-- A view that is found inside another one stands on an element below it. -/
theorem AsksInside.below {t : Tree} (ha : s.AsksInside v a l)
    (htree : s.page.trees[v.container.tree]? = some t) {found : List Finding}
    (h : (s.ask a).2 = .ok found) (hx : .view x ∈ found) {c : Cursor}
    (hc : t.cursor? v.container.path = some c) :
    ∃ d, t.cursor? x.container.path = some d ∧ c.Below d ∧ d.isElement = true := by
  obtain ⟨⟨q, hasks, hl⟩, hnamed, huse⟩ := ha
  rw [← cursor?_eq htree] at hc
  rcases place_of_asks hasks hl huse h hx hc with ⟨hmeans, -⟩ |
    ⟨-, d, hd, hsame, hbelow, hel⟩
  · exact absurd hmeans.1 hnamed
  · rw [cursor?_eq (by rw [hsame, htree])] at hd
    exact ⟨d, hd, hbelow, hel⟩

/-- Every step of a sequence of views costs some height. -/
theorem Nesting.height_add_le {t : Tree} {n : Nat} {w : View} (h : Nesting t v n w) {c : Cursor}
    (hc : t.cursor? v.container.path = some c) :
    ∃ d, t.cursor? w.container.path = some d ∧ d.focus.height + n ≤ c.focus.height := by
  induction h with
  | start => exact ⟨c, hc, le_rfl⟩
  | nest _ htree ha hanswer hx ih =>
      obtain ⟨d, hd, hle⟩ := ih
      obtain ⟨e, he, hbelow, -⟩ := ha.below htree hanswer hx hd
      have hlt := Cursor.height_lt_of_below hbelow
      exact ⟨e, he, by omega⟩

/-- A question inside a view fails where the search fails. -/
theorem AsksInside.fails_iff {t : Tree} (ha : s.AsksInside v a l)
    (htree : s.page.trees[v.container.tree]? = some t) {c : Cursor}
    (hc : t.cursor? v.container.path = some c) :
    ∃ want, ∀ e, (s.ask a).2 = .error e ↔ Search.answer l c want = .error e := by
  obtain ⟨⟨q, hasks, hl⟩, -, huse⟩ := ha
  rw [← cursor?_eq htree] at hc
  obtain ⟨want, hask⟩ := hasks.ask_eq_resolve
  refine ⟨want, fun e => ?_⟩
  rw [hask, resolve_eq_answer huse hl hc, map_eq_error_iff]

/-- A question inside a view fails with the selector if that cannot be read, and with no match
otherwise. -/
theorem AsksInside.error_eq {t : Tree} (ha : s.AsksInside v a l)
    (htree : s.page.trees[v.container.tree]? = some t) {c : Cursor}
    (hc : t.cursor? v.container.path = some c) {e : Error} (h : (s.ask a).2 = .error e) :
    (Css.SelectorList.ofText? l.css = none ∧ e = .badSelector l.css) ∨
      ((Css.SelectorList.ofText? l.css).isSome = true ∧ ∃ sought, e = .noMatch l.css sought) := by
  obtain ⟨want, hfails⟩ := ha.fails_iff htree hc
  rcases Search.error_of_answer ((hfails e).mp h) with hbad | ⟨hread, he⟩
  · exact .inl hbad
  · exact .inr ⟨hread, _, he⟩

/-- Inside a node without children nothing is found. -/
theorem AsksInside.exists_error {t : Tree} (ha : s.AsksInside v a l)
    (htree : s.page.trees[v.container.tree]? = some t) {c : Cursor}
    (hc : t.cursor? v.container.path = some c) (hheight : c.focus.height = 0) :
    ∃ e, (s.ask a).2 = .error e := by
  obtain ⟨want, hfails⟩ := ha.fails_iff htree hc
  have hmeans : ¬ Search.MeansScope l := fun hmeans => ha.named hmeans.1
  obtain ⟨e, he⟩ := Search.exists_error_of_height_eq_zero hheight hmeans
  exact ⟨e, (hfails e).mpr he⟩

/-- Views in views end. A view that a view finds, for a property or for a query of its own, stands on
an element below it if the locator has a selector; it stands on the same node exactly if the locator
means the scope.

So a sequence of views, each found inside the one before it, has no more steps than the tree below
the first view is high. After as many steps whatever is asked inside the last view fails; and
whenever such a question fails, there is no match, or the selector cannot be read. -/
theorem nesting_ends :
    (∀ (s : Session) (v x : View) (a : Ask) (q : Query) (l : Locator) (found : List Finding),
      v.Asks a q → Locator.parse? q.locator = some l → s.CanUse v.source v.container →
      (s.ask a).2 = .ok found → .view x ∈ found →
        (l.css ≠ "" → ∃ c d, s.page.cursor? v.container = some c ∧
          s.page.cursor? x.container = some d ∧ x.container.tree = v.container.tree ∧ c.Below d ∧
          d.isElement = true) ∧
        (x.container = v.container ↔ l.css = "" ∧ l.childScoped = false)) ∧
    ∀ (t : Tree) (v w : View) (n : Nat) (c : Cursor), Nesting t v n w →
      t.cursor? v.container.path = some c →
        n ≤ c.focus.height ∧
        ∀ (s : Session) (a : Ask) (l : Locator), s.page.trees[w.container.tree]? = some t →
          s.AsksInside w a l →
            (c.focus.height ≤ n → ∃ e, (s.ask a).2 = .error e) ∧
            ∀ e, (s.ask a).2 = .error e →
              (Css.SelectorList.ofText? l.css = none ∧ e = .badSelector l.css) ∨
              ((Css.SelectorList.ofText? l.css).isSome = true ∧
                ∃ sought, e = .noMatch l.css sought) := by
  constructor
  · intro s v x a q l found ha hl huse h hx
    obtain ⟨c, hc⟩ := exists_cursor_of_asks ha h
    refine ⟨fun hnamed => ?_, container_eq_iff ha hl huse h hx hc⟩
    rcases place_of_asks ha hl huse h hx hc with ⟨hmeans, -⟩ | ⟨-, d, hd, hsame, hbelow, hel⟩
    · exact absurd hmeans.1 hnamed
    · exact ⟨c, d, hc, hd, hsame, hbelow, hel⟩
  · intro t v w n c hnesting hc
    obtain ⟨d, hd, hle⟩ := hnesting.height_add_le hc
    refine ⟨by omega, fun s a l htree ha => ⟨fun hfull => ?_, fun e he => ?_⟩⟩
    · exact ha.exists_error htree hd (by omega)
    · exact ha.error_eq htree hd he

def listSession : Session := new Search.itemList.top (.listed ["a"])

def viewAt (path : Path) (locator : String) : View := ⟨⟨0, path⟩, .new locator, 0⟩

/-- Asks a view for the first child that a selector selects, as a view. -/
def childOf (v : View) (text : String) : Ask :=
  v.selectFirst (.component (.new ("> " ++ text)))

theorem asksInside_childOf (path : Path) (locator : String) {text : String} (hnamed : text ≠ "")
    (hl : Locator.parse? ("> " ++ text) = some ⟨text, none, true⟩) :
    listSession.AsksInside (viewAt path locator) (childOf (viewAt path locator) text)
      ⟨text, none, true⟩ := by
  refine ⟨⟨_, .first _, hl⟩, hnamed, _, rfl, by decide, fun t ht => ?_⟩
  obtain rfl := Option.some.inj ht
  decide

/-- From the list to its last item and from there to the bold word: further down one cannot go, and
inside the word nothing is found. -/
theorem nesting_ends_word :
    (viewAt [0, 1] "> li + li").container ≠ (viewAt [0] "ul").container ∧
      2 ≤ Search.itemList.focus.height ∧
      ∃ sought, (listSession.ask (childOf (viewAt [0, 1, 0] "> b") "i")).2 =
        .error (.noMatch "i" sought) := by
  obtain ⟨hstep, hall⟩ := nesting_ends
  have hitem : (listSession.ask (childOf (viewAt [0] "ul") "li + li")).2 =
      .ok [.view (viewAt [0, 1] "> li + li")] := by
    cbv
  have hword : (listSession.ask (childOf (viewAt [0, 1] "> li + li") "b")).2 =
      .ok [.view (viewAt [0, 1, 0] "> b")] := by
    cbv
  have hinside := asksInside_childOf [0] "ul" (by decide : "li + li" ≠ "") (by decide)
  have hnesting : Nesting Search.itemList.top (viewAt [0] "ul") 2 (viewAt [0, 1, 0] "> b") :=
    .nest (.nest .start rfl hinside hitem List.mem_cons_self) rfl
      (asksInside_childOf [0, 1] "> li + li" (by decide) (by decide)) hword List.mem_cons_self
  obtain ⟨hle, hend⟩ := hall _ _ _ 2 Search.itemList hnesting rfl
  obtain ⟨hfull, herror⟩ := hend listSession _ _ rfl
    (asksInside_childOf [0, 1, 0] "> b" (by decide : "i" ≠ "") (by decide))
  obtain ⟨e, he⟩ := hfull (by decide)
  refine ⟨?_, hle, ?_⟩
  · have hsame := (hstep listSession _ _ _ _ ⟨"li + li", none, true⟩ _ (.first _) (by decide)
      hinside.usable hitem List.mem_cons_self).2
    exact fun heq => absurd (hsame.mp heq).2 (by decide)
  · rcases herror e he with ⟨hread, -⟩ | ⟨-, sought, rfl⟩
    · have hsome : (Css.SelectorList.ofText? "i").isSome = true := by cbv
      rw [hread] at hsome
      cases hsome
    · exact ⟨sought, he⟩

end Session

end MarkupQuery
