import MarkupQuery.Proofs.Query.Same
import MarkupQuery.Proofs.Session.Taken

/-!
# The same queries find the same

Queries that are the same find the same things in the same order or fail alike
(`Session.sameAnswer_resolve`): what is found depends on their locators, and the views that are found
are of components that are the same. So a property of one view is the same as that of the other, and
whatever is read on from the two along a sequence of names stays the same (`Session.same_trail`).
-/

namespace MarkupQuery

/-- Two results that are the same error, or values that stand in a relation. -/
inductive SameResult {α : Type} (R : α → α → Prop) : Except Error α → Except Error α → Prop where
  | error (e : Error) : SameResult R (.error e) (.error e)
  | ok {a b : α} (h : R a b) : SameResult R (.ok a) (.ok b)

namespace SameResult

variable {α β : Type} {R : α → α → Prop} {S : β → β → Prop}

theorem map_iff {f : α → β} {a b : Except Error α} :
    SameResult S (a.map f) (b.map f) ↔ SameResult (fun x y => S (f x) (f y)) a b := by
  constructor
  · intro h
    cases a <;> cases b <;> cases h
    · exact .error _
    · rename_i h
      exact .ok h
  · rintro (e | h)
    · exact .error e
    · exact .ok h

theorem imp {R' : α → α → Prop} (himp : ∀ x y, R x y → R' x y) {a b : Except Error α}
    (h : SameResult R a b) : SameResult R' a b := by
  cases h with
  | error e => exact .error e
  | ok h => exact .ok (himp _ _ h)

theorem bind {f g : α → Except Error β} {a b : Except Error α} (h : SameResult R a b)
    (hfg : ∀ x y, R x y → SameResult S (f x) (g y)) : SameResult S (a.bind f) (b.bind g) := by
  cases h with
  | error e => exact .error e
  | ok h => exact hfg _ _ h

end SameResult

abbrev Finding.Same (f g : Finding) : Prop := f.same g = true

/-- Two answers that are the same: one error, or as many findings that are the same one by one. -/
abbrev SameAnswer (a b : Except Error (List Finding)) : Prop :=
  SameResult (List.Forall₂ Finding.Same) a b

/-! ### The same findings -/

theorem View.same_iff {v w : View} :
    v.same w = true ↔ v.container = w.container ∧ v.component.same w.component = true := by
  rw [View.same, Bool.and_eq_true, beq_iff_eq]

namespace Finding

/-- The sources that views keep do not tell findings apart. -/
theorem same_forgetSource (f g : Finding) : f.forgetSource.same g.forgetSource = f.same g := by
  cases f <;> cases g <;> rfl

theorem same_self {f : Finding} (h : f.view? = none) : f.Same f := by
  cases f with
  | view v => cases h
  | _ => exact beq_self_eq_true _

end Finding

theorem sameAnswer_shown_iff {a b : Except Error (List Finding)} :
    SameAnswer (Session.shown a) (Session.shown b) ↔ SameAnswer a b := by
  refine SameResult.map_iff.trans ?_
  simp only [List.forall₂_map_left_iff, List.forall₂_map_right_iff, Finding.Same,
    Finding.same_forgetSource]

/-- Queries that are the same take the same from a node. -/
theorem Tree.same_taken (t : Tree) (l : Locator) (location : Location) {q r : Query}
    (h : q.same r = true) :
    (t.taken l q.component? location).Same (t.taken l r.component? location) := by
  unfold taken
  cases l.extraction? with
  | some extraction => cases extraction <;> exact Finding.same_self rfl
  | none =>
      cases q with
      | raw s =>
          rw [Query.same_raw.mp h]
          exact Finding.same_self rfl
      | component c =>
          obtain ⟨d, rfl, hsame⟩ := Query.same_component.mp h
          exact View.same_iff.mpr ⟨rfl, hsame⟩

/-- Queries that are the same have the same answer in a tree. -/
theorem Query.sameAnswer_answer {q r : Query} (h : q.same r = true) (tree? : Option Tree)
    (scope : Location) (want : Want) :
    SameAnswer (q.answer tree? scope want) (r.answer tree? scope want) := by
  rw [answer, answer, ← locator_eq_of_same h]
  cases Locator.parse? q.locator with
  | none => exact .error _
  | some l =>
      dsimp only
      cases tree?.bind (·.cursor? scope.path) with
      | none => exact .error _
      | some cursor =>
          dsimp only
          cases Search.answer l cursor want with
          | error e => exact .error e
          | ok paths =>
              refine .ok ?_
              rw [List.forall₂_map_left_iff, List.forall₂_map_right_iff, List.forall₂_same]
              exact fun path _ => cursor.top.same_taken l _ h

theorem Query.sameAnswer_answerFirst {q r : Query} (h : q.same r = true) (tree? : Option Tree)
    (scope : Location) : SameAnswer (q.answerFirst tree? scope) (r.answerFirst tree? scope) := by
  rw [answerFirst, answerFirst, ← locator_eq_of_same h]
  refine (sameAnswer_answer h tree? scope .first).bind fun found found' hfound => ?_
  cases hfound with
  | nil => exact .error _
  | cons hfg _ => exact .ok (.cons hfg .nil)

/-- A property of a view is the same as that of a view that is the same. -/
theorem Ask.sameAnswer_property {v w : View} (hv : v.component.Built) (hw : w.component.Built)
    (h : v.same w = true) (tree? : Option Tree) (name : String) :
    SameAnswer ((Ask.property v name).answer tree?) ((Ask.property w name).answer tree?) := by
  obtain ⟨hcontainer, hsame⟩ := View.same_iff.mp h
  obtain ⟨-, heach⟩ := (Component.same_iff_property? hv hw).mp hsame
  rw [answer, answer, ← hcontainer]
  by_cases hname : name = containerKey
  · rw [if_pos hname, if_pos hname]
    exact .ok (.cons (beq_self_eq_true v.container) .nil)
  · rw [if_neg hname, if_neg hname]
    have hrel := heach name
    revert hrel
    generalize v.component.property? name = q?
    generalize w.component.property? name = r?
    rintro (hqr | _)
    · exact Query.sameAnswer_answerFirst hqr tree? v.container
    · exact .error _

namespace Session

variable {s s' : Session} {source source' : Nat} {scope : Location}

/-! ### Sources that can be used for ever -/

/-- Whether a source of ids can be used on a tree of a page again and again: all ids that it will
hand out make classes that are plain names and that nothing in the tree carries. -/
def CanUseAlways (s : Session) (source tree : Nat) : Prop :=
  ∃ markers, s.sources[source]? = some markers ∧ ∀ n, ∀ id ∈ markers.upcoming n,
    Css.IsPlain (Marker.classStem ++ id) ∧
      ∀ t ∈ s.page.trees[tree]?, t.FreeOf (Marker.classStem ++ id)

theorem CanUseAlways.canUse (h : s.CanUseAlways source scope.tree) : s.CanUse source scope := by
  obtain ⟨markers, hsource, hids⟩ := h
  exact ⟨markers, hsource, hids 1 _ List.mem_cons_self⟩

/-- A question leaves a source as good as it was. -/
theorem CanUseAlways.ask {tree : Nat} (h : s.CanUseAlways source tree) (a : Ask) :
    (s.ask a).1.CanUseAlways source tree := by
  obtain ⟨markers, hsource, hids⟩ := h
  refine ⟨_, sources_ask hsource a, fun n id hid => ?_⟩
  rw [page_ask]
  split at hid
  · exact hids (n + 1) id (List.mem_cons_of_mem _ hid)
  · exact hids n id hid

theorem CanUseAlways.askAll {tree : Nat} (h : s.CanUseAlways source tree) (asks : List Ask) :
    (s.askAll asks).CanUseAlways source tree := by
  induction asks generalizing s with
  | nil => exact h
  | cons a asks ih => exact ih (h.ask a)

/-! ### The same answers -/

/-- Queries that are the same have the same answer on the same page, with whatever sources of
ids. -/
theorem sameAnswer_resolve {q r : Query} (h : q.same r = true) (hpage : s.page = s'.page)
    (hs : s.CanUse source scope) (hs' : s'.CanUse source' scope) (want : Want) :
    SameAnswer (s.resolve source scope q want).2 (s'.resolve source' scope r want).2 := by
  rw [← sameAnswer_shown_iff, shown_resolve hs, shown_resolve hs', hpage]
  exact Query.sameAnswer_answer h _ scope want

def view? (answer : Except Error Finding) : Option View := answer.toOption.bind Finding.view?

theorem eq_of_view? {answer : Except Error Finding} {v : View} (h : view? answer = some v) :
    answer = .ok (.view v) := by
  cases answer with
  | error e => cases h
  | ok f =>
      cases f with
      | view w =>
          cases h
          rfl
      | _ => cases h

/-- Results that are the same are both views, or neither is. -/
theorem views_of_sameResult {a b : Except Error Finding} (h : SameResult Finding.Same a b) :
    (view? a = none ∧ view? b = none) ∨
      ∃ v w, view? a = some v ∧ view? b = some w ∧ v.same w = true := by
  cases h with
  | error e => exact .inl ⟨rfl, rfl⟩
  | @ok f g h =>
      cases f with
      | view v =>
          cases g with
          | view w => exact .inr ⟨v, w, rfl, rfl, h⟩
          | _ => cases h
      | _ =>
          cases g with
          | view w => cases h
          | _ => exact .inl ⟨rfl, rfl⟩

/-- Views that are the same have the same properties, as far as asking them shows. -/
theorem same_property {v w : View} (hv : v.component.Built) (hw : w.component.Built)
    (h : v.same w = true) (hpage : s.page = s'.page) (hs : s.CanUse v.source v.container)
    (hs' : s'.CanUse w.source w.container) (name : String) :
    SameResult Finding.Same (s.property v name).2 (s'.property w name).2 := by
  have hanswer : SameAnswer ((s.property v name).2.map fun f => [f])
      ((s'.property w name).2.map fun f => [f]) := by
    rw [← sameAnswer_shown_iff, shown_property hs, shown_property hs',
      ← (View.same_iff.mp h).1, hpage]
    exact Ask.sameAnswer_property hv hw h _ name
  refine (SameResult.map_iff.mp hanswer).imp fun f g hfg => ?_
  exact (List.forall₂_cons.mp hfg).1

/-- A view that a property answers with is of a component that can be built if that of the asked
view is, it stands in the same tree, and it keeps the source. -/
theorem view_of_property {v w : View} {name : String} (hv : v.component.Built)
    (h : view? (s.property v name).2 = some w) :
    w.component.Built ∧ w.container.tree = v.container.tree ∧ w.source = v.source := by
  have hask : (s.ask (.property v name)).2 = .ok [.view w] := by
    show (s.property v name).2.map _ = _
    rw [eq_of_view? h]
    rfl
  rcases ask_cases (.property v name) with ⟨q, want, hq, hresolve⟩ | ⟨-, answer, hanswer, hnode⟩
  · rw [hresolve] at hask
    obtain ⟨c, path, rfl, rfl⟩ := view_of_mem_resolve hask List.mem_cons_self
    refine ⟨?_, rfl, rfl⟩
    rw [Ask.query?] at hq
    split at hq
    · cases hq
    · exact hv.of_property? hq
  · rw [hanswer] at hask
    cases hnode _ hask

/-- What is read from a view along a sequence of names: the property of the first name, then that of
the next one in the view that was answered, and so on while the answers are views. -/
def trail (s : Session) (v : View) : List String → List (Except Error Finding)
  | [] => []
  | name :: names =>
    (s.property v name).2 :: match view? (s.property v name).2 with
      | some w => (s.property v name).1.trail w names
      | none => []

theorem trail_cons_of_some {v w : View} {name : String} (h : view? (s.property v name).2 = some w)
    (names : List String) :
    s.trail v (name :: names) = (s.property v name).2 :: (s.property v name).1.trail w names := by
  rw [trail, h]

theorem trail_cons_of_none {v : View} {name : String} (h : view? (s.property v name).2 = none)
    (names : List String) : s.trail v (name :: names) = [(s.property v name).2] := by
  rw [trail, h]

/-- From views that are the same the same is read along every sequence of names. -/
theorem same_trail {v w : View} (hv : v.component.Built) (hw : w.component.Built)
    (h : v.same w = true) (hpage : s.page = s'.page)
    (hs : s.CanUseAlways v.source v.container.tree)
    (hs' : s'.CanUseAlways w.source w.container.tree) (names : List String) :
    List.Forall₂ (SameResult Finding.Same) (s.trail v names) (s'.trail w names) := by
  induction names generalizing s s' v w with
  | nil => exact .nil
  | cons name names ih =>
      have hproperty := same_property hv hw h hpage hs.canUse hs'.canUse name
      rcases views_of_sameResult hproperty with ⟨hv', hw'⟩ | ⟨v', w', hv', hw', hsame⟩
      · rw [trail_cons_of_none hv', trail_cons_of_none hw']
        exact .cons hproperty .nil
      · rw [trail_cons_of_some hv', trail_cons_of_some hw']
        obtain ⟨hv'', htree, hsource⟩ := view_of_property hv hv'
        obtain ⟨hw'', htree', hsource'⟩ := view_of_property hw hw'
        refine .cons hproperty (ih hv'' hw'' hsame ?_ ?_ ?_)
        · rw [page_property, page_property, hpage]
        · rw [hsource, htree]
          exact hs.ask (.property v name)
        · rw [hsource', htree']
          exact hs'.ask (.property w name)

/-- To be the same is an equivalence between the queries that can be built. A locator is the same as
itself only. Components are the same exactly if their containers are the same text and they hold
queries that are the same under the same names, and that is so exactly if the properties of the one,
put in some order, are those of the other one by one.

Queries that are the same have the same answer on one page, whatever is searched, however many
findings are wanted and whichever sources of ids are used: one error, or as many findings that are
the same one by one. And whatever is asked in between, the same is read from two views in them that
are the same, along every sequence of names. -/
theorem same_queries_answer_alike :
    (∀ q : Query, q.Built → q.same q = true) ∧
    (∀ q r : Query, q.Built → r.Built → q.same r = true → r.same q = true) ∧
    (∀ p q r : Query, p.Built → p.same q = true → q.same r = true → p.same r = true) ∧
    (∀ (text : String) (q : Query), (Query.raw text).same q = true ↔ q = .raw text) ∧
    (∀ c d : Component, c.Built → d.Built → ((Query.component c).same (.component d) = true ↔
      c.container = d.container ∧
        ∀ n, Option.Rel (fun q r => q.same r = true) (c.property? n) (d.property? n))) ∧
    (∀ c d : Component, c.Built → d.Built → ((Query.component c).same (.component d) = true ↔
      c.container = d.container ∧ ∃ ps, ps.Perm d.properties ∧
        List.Forall₂ (fun p r => p.1 = r.1 ∧ p.2.same r.2 = true) c.properties ps)) ∧
    ∀ (s s' : Session) (source source' : Nat) (scope : Location) (q r : Query) (want : Want),
      q.Built → r.Built → q.same r = true → s.page = s'.page →
      s.CanUseAlways source scope.tree → s'.CanUseAlways source' scope.tree →
      SameAnswer (s.resolve source scope q want).2 (s'.resolve source' scope r want).2 ∧
      ∀ (found found' : List Finding) (v w : View),
        (s.resolve source scope q want).2 = .ok found →
        (s'.resolve source' scope r want).2 = .ok found' →
        .view v ∈ found → .view w ∈ found' → v.same w = true →
        ∀ (asks asks' : List Ask) (names : List String),
          List.Forall₂ (SameResult Finding.Same)
            (((s.resolve source scope q want).1.askAll asks).trail v names)
            (((s'.resolve source' scope r want).1.askAll asks').trail w names) := by
  refine ⟨?_, ?_, ?_, ?_, ?_, ?_, ?_⟩
  · intro q hq
    exact hq.same_self
  · intro q r hq hr h
    exact hq.same_symm hr h
  · intro p q r hp hpq hqr
    exact hp.same_trans hpq hqr
  · intro text q
    exact Query.same_raw
  · intro c d hc hd
    rw [Query.same]
    exact Component.same_iff_property? hc hd
  · intro c d hc hd
    rw [Query.same]
    exact Component.same_iff_perm hc hd
  · intro s s' source source' scope q r want hq hr h hpage hs hs'
    refine ⟨sameAnswer_resolve h hpage hs.canUse hs'.canUse want, ?_⟩
    intro found found' v w hfound hfound' hv hw hsame asks asks' names
    obtain ⟨c, path, rfl, rfl⟩ := view_of_mem_resolve hfound hv
    obtain ⟨d, path', rfl, rfl⟩ := view_of_mem_resolve hfound' hw
    refine same_trail ?_ ?_ hsame ?_ ?_ ?_ names
    · exact hq
    · exact hr
    · rw [page_askAll, page_askAll, page_resolve, page_resolve, hpage]
    · exact (hs.ask (.resolve source scope (.component c) want)).askAll asks
    · exact (hs'.ask (.resolve source' scope (.component d) want)).askAll asks'

/-- A source of one id hands it out again and again. -/
theorem upcoming_listed_singleton (id : String) (taken : List String) (n : Nat) :
    Marker.Source.upcoming ⟨.listed [id], taken⟩ n = List.replicate n id := by
  induction n generalizing taken with
  | zero => rfl
  | succ n ih => exact congrArg (id :: ·) (ih (id :: taken))

theorem canUseAlways_listed {tree : Nat} {id : String} {taken : List String}
    (hsource : s.sources[source]? = some ⟨.listed [id], taken⟩)
    (hid : Css.IsPlain (Marker.classStem ++ id))
    (hfree : ∀ t ∈ s.page.trees[tree]?, t.FreeOf (Marker.classStem ++ id)) :
    s.CanUseAlways source tree := by
  refine ⟨_, hsource, fun n id' hid' => ?_⟩
  rw [upcoming_listed_singleton] at hid'
  rw [List.eq_of_mem_replicate hid']
  exact ⟨hid, hfree⟩

theorem canUseAlways_new {t : Tree} {id : String} (hid : Css.IsPlain (Marker.classStem ++ id))
    (hfree : t.FreeOf (Marker.classStem ++ id)) : (new t (.listed [id])).CanUseAlways 0 0 := by
  refine canUseAlways_listed rfl hid fun t' ht => ?_
  obtain rfl := Option.some.inj ht
  exact hfree

def lastItem (ps : List (String × Query)) : Query :=
  .component ((Component.new "> li + li").declareAll ps)

def listWithItems : Component :=
  (Component.new "ul").declareAll
    [("last", lastItem [("text", .raw "::text"), ("word", .raw "> b")]), ("all", .raw "> li")]

/-- The same with the properties of both in the other order. -/
def listWithItems' : Component :=
  (Component.new "ul").declareAll
    [("all", .raw "> li"), ("last", lastItem [("word", .raw "> b"), ("text", .raw "::text")])]

theorem built_listWithItems : listWithItems.Built ∧ listWithItems'.Built := by
  constructor
  · refine .component "ul" _ (List.forall_mem_cons.mpr ⟨.component "> li + li" _ ?_, ?_⟩)
    all_goals simp [Query.Built.raw]
  · refine .component "ul" _ (List.forall_mem_cons.mpr ⟨.raw _, List.forall_mem_cons.mpr
      ⟨.component "> li + li" _ ?_, ?_⟩⟩)
    all_goals simp [Query.Built.raw]

def viewOfList (c : Component) : View := ⟨⟨0, [0]⟩, c, 0⟩

/-- The word in the last item is read from both views of the list, also when the second one is asked
for its items before. -/
theorem same_queries_answer_alike_items :
    (Query.component listWithItems).same (.component listWithItems') = true ∧
      List.Forall₂ (SameResult Finding.Same)
        (((new Search.itemList.top (.listed ["a"])).resolve 0 .root
          (.component listWithItems) .first).1.trail (viewOfList listWithItems) ["last", "word"])
        ((((new Search.itemList.top (.listed ["b"])).resolve 0 .root
          (.component listWithItems') .first).1.askAll
            [(viewOfList listWithItems').selectAll (.raw "> li")]).trail
              (viewOfList listWithItems') ["last", "word"]) := by
  obtain ⟨-, -, -, -, -, -, hanswers⟩ := same_queries_answer_alike
  have hsame : (Query.component listWithItems).same (.component listWithItems') = true := by
    decide
  have hfound : ((new Search.itemList.top (.listed ["a"])).resolve 0 .root
      (.component listWithItems) .first).2 = .ok [.view (viewOfList listWithItems)] := by
    cbv
  have hfound' : ((new Search.itemList.top (.listed ["b"])).resolve 0 .root
      (.component listWithItems') .first).2 = .ok [.view (viewOfList listWithItems')] := by
    cbv
  have hread := (hanswers (new Search.itemList.top (.listed ["a"]))
    (new Search.itemList.top (.listed ["b"])) 0 0 .root (.component listWithItems)
    (.component listWithItems') .first built_listWithItems.1 built_listWithItems.2 hsame rfl
    (canUseAlways_new (by decide) (by decide)) (canUseAlways_new (by decide) (by decide))).2
  exact ⟨hsame, hread _ _ _ _ hfound hfound' List.mem_cons_self List.mem_cons_self hsame []
    [(viewOfList listWithItems').selectAll (.raw "> li")] ["last", "word"]⟩

end Session

end MarkupQuery
