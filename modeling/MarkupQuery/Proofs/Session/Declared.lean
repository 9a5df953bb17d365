import MarkupQuery.Proofs.Query.Same
import MarkupQuery.Proofs.Session.First

/-!
# Declared properties of a view

Whatever was declared for a component, in whatever order and however often, a view of it answers for
a name what its container answers to the query that was declared for this name last. Declarations of
different names commute (`Component.property?_declare_comm`), so two of them that stand side by side
can be exchanged. All of this together is `Session.declared_properties`.
-/

namespace MarkupQuery

namespace Component

variable {c d : Component} {container : String} {ps front back : List (String × Query)}
  {n : String}

/-! ### The last declaration of a name -/

theorem property?_declareAll_eq_some_iff {q : Query} :
    ((new container).declareAll ps).property? n = some q ↔
      ∃ front back, ps = front ++ (n, q) :: back ∧ n ∉ back.map Prod.fst := by
  rw [property?_declareAll, List.lookup_eq_some_iff]
  simp only [← List.lookup_eq_none_iff, lookup_eq_none_iff]
  constructor
  · rintro ⟨back, front, hps, hn⟩
    refine ⟨front.reverse, back.reverse, ?_, ?_⟩
    · simpa using congrArg List.reverse hps
    · rwa [List.map_reverse, List.mem_reverse]
  · rintro ⟨front, back, rfl, hn⟩
    refine ⟨back.reverse, front.reverse, ?_, ?_⟩
    · simp
    · rwa [List.map_reverse, List.mem_reverse]

theorem property?_declareAll_eq_none_iff :
    ((new container).declareAll ps).property? n = none ↔ n ∉ ps.map Prod.fst := by
  rw [property?_declareAll, lookup_eq_none_iff, List.map_reverse, List.mem_reverse]

/-! ### Declarations in another order -/

theorem property?_declare (c : Component) (name : String) (q : Query) (n : String) :
    (c.declare name q).property? n = if n = name then some q else c.property? n :=
  lookup_insertProperty name q c.properties n

theorem property?_declare_comm {m : String} (hne : m ≠ n) (c : Component) (q r : Query)
    (name : String) :
    ((c.declare m q).declare n r).property? name = ((c.declare n r).declare m q).property? name := by
  rw [property?_declare, property?_declare, property?_declare, property?_declare]
  by_cases hn : name = n
  · have hm : name ≠ m := fun h => hne (h.symm.trans hn)
    rw [if_pos hn, if_neg hm, if_pos hn]
  · rw [if_neg hn, if_neg hn]

/-- Components that hold the same queries still do so after the same declarations. -/
theorem property?_declareAll_congr (h : ∀ n, c.property? n = d.property? n)
    (ps : List (String × Query)) (n : String) :
    (c.declareAll ps).property? n = (d.declareAll ps).property? n := by
  induction ps generalizing c d with
  | nil => exact h n
  | cons p ps ih =>
      refine ih fun m => ?_
      rw [property?_declare, property?_declare, h]

theorem declareAll_append (c : Component) (ps qs : List (String × Query)) :
    c.declareAll (ps ++ qs) = (c.declareAll ps).declareAll qs :=
  List.foldl_append

theorem property?_declareAll_swap {p r : String × Query} (hne : p.1 ≠ r.1) (n : String) :
    ((new container).declareAll (front ++ p :: r :: back)).property? n =
      ((new container).declareAll (front ++ r :: p :: back)).property? n := by
  rw [declareAll_append, declareAll_append]
  exact property?_declareAll_congr (property?_declare_comm hne _ p.2 r.2) back n

theorem same_of_property?_eq (hc : c.Built) (hd : d.Built) (hcontainer : c.container = d.container)
    (h : ∀ n, c.property? n = d.property? n) : c.same d = true := by
  refine (same_iff_property? hc hd).mpr ⟨hcontainer, fun n => ?_⟩
  rw [h n]
  cases hq : d.property? n with
  | none => exact .none
  | some q => exact .some (Query.Built.same_self (hd.of_property? hq))

theorem same_declareAll_swap {p r : String × Query} (hne : p.1 ≠ r.1)
    (hbuilt : ∀ x ∈ front ++ p :: r :: back, x.2.Built) :
    ((new container).declareAll (front ++ p :: r :: back)).same
      ((new container).declareAll (front ++ r :: p :: back)) = true := by
  have hbuilt' : ∀ x ∈ front ++ r :: p :: back, x.2.Built := fun x hx =>
    hbuilt x ((List.Perm.append_left front (.swap p r back)).mem_iff.mp hx)
  refine same_of_property?_eq (.component _ _ hbuilt) (.component _ _ hbuilt') ?_
    (property?_declareAll_swap hne)
  rw [container_declareAll, container_declareAll]

end Component

namespace Session

variable {s : Session} {v : View} {name : String}

/-! ### Properties of a view -/

/-- No query fails with the name of a property. -/
theorem ne_unknownProperty_of_resolve {source : Nat} {scope : Location} {q : Query} {want : Want}
    {e : Error} (h : (s.resolve source scope q want).2 = .error e) :
    e ≠ .unknownProperty name := by
  rintro rfl
  unfold resolve at h
  split at h
  · cases h
  · split at h
    · rcases Search.error_of_find (map_eq_error_iff.mp h) with hbad | hnone
      · cases hbad
      · cases hnone
    · cases h

theorem property_eq_unknownProperty_iff (hname : name ≠ containerKey) :
    (s.property v name).2 = .error (.unknownProperty name) ↔
      v.component.property? name = none := by
  cases hq : v.component.property? name with
  | none => simp [property_of_none hname hq]
  | some q =>
      rw [property_of_some hname hq, selectFirst_eq_error_iff]
      simp only [reduceCtorEq, iff_false]
      intro h
      exact ne_unknownProperty_of_resolve h rfl

/-- What becomes of a component without properties by any declarations. Its container stays; its
properties are named as they were declared, each name once and where it was declared first; and under
a name stands the query that was declared for it last, or none if the name was not declared.

A view of it answers for `container` its node, declared or not. For any other name the answer is that
there is no such property exactly if the name was not declared, and nothing is searched then;
otherwise the view asks its node the query that was declared for the name last.

Two declarations of different names that follow each other can be exchanged: with queries that can be
built, the component is the same then. -/
theorem declared_properties (container : String) (ps : List (String × Query)) :
    ((Component.new container).declareAll ps).container = container ∧
    ((Component.new container).declareAll ps).propertyNames = (ps.map Prod.fst).eraseDups ∧
    ((Component.new container).declareAll ps).propertyNames.Nodup ∧
    (∀ n q, ((Component.new container).declareAll ps).property? n = some q ↔
      ∃ front back, ps = front ++ (n, q) :: back ∧ n ∉ back.map Prod.fst) ∧
    (∀ n, ((Component.new container).declareAll ps).property? n = none ↔ n ∉ ps.map Prod.fst) ∧
    (∀ (s : Session) (v : View), v.component = (Component.new container).declareAll ps →
      s.property v containerKey = (s, .ok (.node v.container)) ∧
      ∀ n, n ≠ containerKey →
        ((s.property v n).2 = .error (.unknownProperty n) ↔ n ∉ ps.map Prod.fst) ∧
        (n ∉ ps.map Prod.fst → (s.property v n).1 = s) ∧
        ∀ front q back, ps = front ++ (n, q) :: back → n ∉ back.map Prod.fst →
          s.property v n = s.selectFirst v.source v.container q) ∧
    ∀ front m q n r back, ps = front ++ (m, q) :: (n, r) :: back → m ≠ n →
      (∀ p ∈ ps, p.2.Built) →
        ((Component.new container).declareAll ps).same
          ((Component.new container).declareAll (front ++ (n, r) :: (m, q) :: back)) = true := by
  refine ⟨Component.container_declareAll _ ps, Component.propertyNames_declareAll container ps,
    Component.nodup_declareAll container ps, ?_, ?_, ?_, ?_⟩
  · intro n q
    exact Component.property?_declareAll_eq_some_iff
  · intro n
    exact Component.property?_declareAll_eq_none_iff
  · intro s v hv
    refine ⟨s.property_containerKey v, fun n hname => ⟨?_, ?_, ?_⟩⟩
    · rw [property_eq_unknownProperty_iff hname, hv, Component.property?_declareAll_eq_none_iff]
    · intro hn
      rw [property_of_none hname]
      rw [hv]
      exact Component.property?_declareAll_eq_none_iff.mpr hn
    · intro front q back hps hn
      apply property_of_some hname
      rw [hv]
      exact Component.property?_declareAll_eq_some_iff.mpr ⟨front, back, hps, hn⟩
  · rintro front m q n r back rfl hne hbuilt
    exact Component.same_declareAll_swap hne hbuilt

/-- Declarations of two properties. One of them is declared twice, and the other is called like the
container. -/
def itemDeclarations : List (String × Query) :=
  [("word", .raw "b"), (containerKey, .raw "i"), ("word", .raw "i")]

def itemView : View := ⟨⟨0, [0, 1]⟩, (Component.new "li").declareAll itemDeclarations, 0⟩

/-- The item has a bold word, but the declaration of this word was replaced. -/
theorem declared_properties_item :
    (new Search.itemList.top .counted).property itemView containerKey =
        (new Search.itemList.top .counted, .ok (.node ⟨0, [0, 1]⟩)) ∧
      (new Search.itemList.top .counted).property itemView "word" =
        (new Search.itemList.top .counted).selectFirst 0 ⟨0, [0, 1]⟩ (.raw "i") ∧
      ((new Search.itemList.top .counted).property itemView "note").2 =
        .error (.unknownProperty "note") ∧
      itemView.component.same ((Component.new "li").declareAll
        [("word", .raw "b"), ("word", .raw "i"), (containerKey, .raw "i")]) = true := by
  obtain ⟨-, -, -, -, -, hview, hswap⟩ := declared_properties "li" itemDeclarations
  obtain ⟨hcontainer, hproperty⟩ := hview (new Search.itemList.top .counted) itemView rfl
  obtain ⟨-, -, hlast⟩ := hproperty "word" (by decide)
  obtain ⟨hunknown, -, -⟩ := hproperty "note" (by decide)
  refine ⟨hcontainer, ?_, ?_, ?_⟩
  · exact hlast [("word", .raw "b"), (containerKey, .raw "i")] (.raw "i") [] rfl (by simp)
  · exact hunknown.mpr (by decide)
  · refine hswap [("word", .raw "b")] containerKey (.raw "i") "word" (.raw "i") [] rfl (by decide) ?_
    simp [itemDeclarations, Query.Built.raw]

end Session

end MarkupQuery
