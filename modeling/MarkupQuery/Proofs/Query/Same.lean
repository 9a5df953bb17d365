import Mathlib.Data.List.Nodup
import Mathlib.Data.List.Perm.Subperm
import MarkupQuery.Proofs.Query.Json

/-!
# Queries that are the same

Queries are built by declaring properties one after the other, in code or from JSON
(`Query.Built`), so a name stands once in each component. Components are the same if they have the
same container and hold the same queries under the same names, in whatever order
(`Component.same_iff_property?`); one of them can then be put in the order of the other
(`Component.same_iff_perm`). On queries that can be built, to be the same is an equivalence.
-/

namespace MarkupQuery

/-! ### Lists of named queries -/

theorem mem_of_lookup {n : String} {q : Query} {ps : List (String × Query)}
    (h : ps.lookup n = some q) : (n, q) ∈ ps := by
  obtain ⟨xs, ys, rfl, -⟩ := List.lookup_eq_some_iff.mp h
  simp

/-- Where each name stands once, a query is found under its name. -/
theorem lookup_of_mem {ps : List (String × Query)} (hnodup : (ps.map Prod.fst).Nodup)
    {p : String × Query} (h : p ∈ ps) : ps.lookup p.1 = some p.2 := by
  obtain ⟨xs, ys, rfl⟩ := List.append_of_mem h
  rw [List.map_append, List.map_cons, List.nodup_append] at hnodup
  refine List.lookup_eq_some_iff.mpr ⟨xs, ys, rfl, ?_⟩
  intro r hr
  have hne := hnodup.2.2 r.1 (List.mem_map_of_mem hr) p.1 List.mem_cons_self
  simpa using hne.symm

theorem lookup_eq_none_iff {n : String} {ps : List (String × Query)} :
    ps.lookup n = none ↔ n ∉ ps.map Prod.fst := by
  rw [List.lookup_eq_none_iff, List.mem_map]
  constructor
  · rintro h ⟨p, hp, rfl⟩
    simpa using h p hp
  · intro h p hp
    have hne : n ≠ p.1 := fun e => h ⟨p, hp, e.symm⟩
    simpa using hne

/-- Every property of the first list is declared in the second with the same query. -/
theorem Component.declaredIn_iff {ps qs : List (String × Query)} :
    declaredIn ps qs = true ↔ ∀ p ∈ ps, ∃ r, qs.lookup p.1 = some r ∧ p.2.same r = true := by
  induction ps with
  | nil => simp [declaredIn]
  | cons p ps ih =>
      obtain ⟨n, q⟩ := p
      rw [declaredIn, Bool.and_eq_true, Option.any_eq_true, ih, List.forall_mem_cons]

/-! ### Queries that can be built -/

theorem nodup_insertProperty {name : String} {q : Query} {ps : List (String × Query)}
    (h : (ps.map Prod.fst).Nodup) : ((insertProperty name q ps).map Prod.fst).Nodup := by
  rw [names_insertProperty]
  split
  · exact h
  · rename_i hmem
    rw [← List.concat_eq_append]
    exact h.concat hmem

/-- Declarations put each name in one place only. -/
theorem Component.nodup_declareAll (container : String) (ps : List (String × Query)) :
    ((new container).declareAll ps).propertyNames.Nodup := by
  induction ps using List.reverseRecOn with
  | nil => exact List.nodup_nil
  | append_singleton ps p ih =>
      rw [declareAll_append_singleton]
      exact nodup_insertProperty ih

/-- A query that can be built: a locator, or a component whose properties were declared one after
the other. -/
inductive Query.Built : Query → Prop where
  | raw (locator : String) : Built (.raw locator)
  | component (container : String) (ps : List (String × Query)) (each : ∀ p ∈ ps, Built p.2) :
      Built (.component ((Component.new container).declareAll ps))

def Component.Built (c : Component) : Prop := Query.Built (.component c)

namespace Component.Built

variable {c : Component}

theorem nodup (h : c.Built) : c.propertyNames.Nodup := by
  generalize hq : Query.component c = q at h
  cases h with
  | component container ps each =>
      cases hq
      exact nodup_declareAll container ps

theorem of_mem (h : c.Built) {p : String × Query} (hp : p ∈ c.properties) : p.2.Built := by
  generalize hq : Query.component c = q at h
  cases h with
  | component container ps each =>
      cases hq
      exact each p (mem_of_mem_properties_declareAll hp)

theorem of_property? (h : c.Built) {n : String} {q : Query} (hq : c.property? n = some q) :
    q.Built :=
  h.of_mem (mem_of_lookup hq)

/-- One more property can be declared. -/
theorem declare (h : c.Built) (name : String) {q : Query} (hq : q.Built) :
    (c.declare name q).Built := by
  generalize hc : Query.component c = r at h
  cases h with
  | component container ps each =>
      cases hc
      rw [← declareAll_append_singleton _ ps (name, q)]
      refine .component container (ps ++ [(name, q)]) fun p hp => ?_
      rcases List.mem_append.mp hp with hp | hp
      · exact each p hp
      · rw [List.mem_singleton.mp hp]
        exact hq

end Component.Built

/-- What is read from JSON can be built. -/
theorem Query.built_of_ofJson? {j : Json} {q : Query} (h : Query.ofJson? j = some q) :
    q.Built := by
  have hj : j.IsQuery := (Json.exists_ofJson?_iff j).mp ⟨q, h⟩
  induction hj generalizing q with
  | locator s =>
      rw [Query.ofJson?] at h
      cases h
      exact .raw s
  | component _ _ _ ih =>
      rw [Query.ofJson?_obj] at h
      obtain ⟨c, hc, rfl⟩ := Option.map_eq_some_iff.mp h
      obtain ⟨container, declared, -, heach, rfl⟩ := Component.ofJson?_obj_eq_some_iff.mp hc
      refine .component container declared fun p hp => ?_
      obtain ⟨m, hm, -, hvalue⟩ := Json.exists_of_mem_forall₂ heach hp
      exact ih m hm hvalue

/-! ### The same queries -/

/-- Two optional values are related if neither is there, or both are and they are related. -/
theorem rel_iff {α β : Type} {R : α → β → Prop} {a? : Option α} {b? : Option β} :
    Option.Rel R a? b? ↔
      (a? = none ↔ b? = none) ∧ ∀ a b, a? = some a → b? = some b → R a b := by
  cases a? with
  | none =>
      cases b? with
      | none => simp
      | some b => exact iff_of_false nofun (by simp)
  | some a =>
      cases b? with
      | none => exact iff_of_false nofun (by simp)
      | some b =>
          refine ⟨fun h => ⟨by simp, ?_⟩, fun h => .some (h.2 a b rfl rfl)⟩
          rintro _ _ ⟨⟩ ⟨⟩
          cases h with
          | some hab => exact hab

namespace Component

variable {c d : Component}

/-- Components are the same if they have as many properties and each one of the first is declared
in the second. -/
theorem same_iff_declared : c.same d = true ↔
    c.container = d.container ∧ c.properties.length = d.properties.length ∧
      ∀ p ∈ c.properties, ∃ r, d.property? p.1 = some r ∧ p.2.same r = true := by
  obtain ⟨c, ps⟩ := c
  obtain ⟨d, qs⟩ := d
  rw [same, Bool.and_eq_true, Bool.and_eq_true, beq_iff_eq, beq_iff_eq, declaredIn_iff, and_assoc]
  rfl

/-- A name stands in both of two components that are the same, or in none. -/
theorem names_perm_of_same (hc : c.Built) (h : c.same d = true) :
    c.propertyNames.Perm d.propertyNames := by
  obtain ⟨-, hlength, hdeclared⟩ := same_iff_declared.mp h
  have hsub : c.propertyNames ⊆ d.propertyNames := by
    intro n hn
    obtain ⟨p, hp, rfl⟩ := List.mem_map.mp hn
    obtain ⟨r, hr, -⟩ := hdeclared p hp
    exact List.mem_map.mpr ⟨_, mem_of_lookup hr, rfl⟩
  refine (hc.nodup.subperm hsub).perm_of_length_le ?_
  simp [propertyNames, hlength]

/-- Components are the same if they have the same container and hold the same queries under the
same names. -/
theorem same_iff_property? (hc : c.Built) (hd : d.Built) : c.same d = true ↔
    c.container = d.container ∧
      ∀ n, Option.Rel (fun q r => q.same r = true) (c.property? n) (d.property? n) := by
  constructor
  · intro h
    obtain ⟨hcontainer, -, hdeclared⟩ := same_iff_declared.mp h
    refine ⟨hcontainer, fun n => ?_⟩
    cases hq : c.property? n with
    | none =>
        have hn : n ∉ d.propertyNames := by
          rw [← (names_perm_of_same hc h).mem_iff]
          exact lookup_eq_none_iff.mp hq
        rw [property?, lookup_eq_none_iff.mpr hn]
        exact .none
    | some q =>
        obtain ⟨r, hr, hqr⟩ := hdeclared _ (mem_of_lookup hq)
        rw [hr]
        exact .some hqr
  · rintro ⟨hcontainer, heach⟩
    have hnames : c.propertyNames.Perm d.propertyNames := by
      refine (List.perm_ext_iff_of_nodup hc.nodup hd.nodup).mpr fun n => ?_
      have hnone : c.property? n = none ↔ d.property? n = none := (rel_iff.mp (heach n)).1
      exact not_iff_not.mp (lookup_eq_none_iff.symm.trans (hnone.trans lookup_eq_none_iff))
    refine same_iff_declared.mpr ⟨hcontainer, ?_, ?_⟩
    · simpa [propertyNames] using hnames.length_eq
    · intro p hp
      have hq : c.property? p.1 = some p.2 := lookup_of_mem hc.nodup hp
      obtain ⟨hnone, hsame⟩ := rel_iff.mp (heach p.1)
      obtain ⟨r, hr⟩ := Option.ne_none_iff_exists'.mp (mt hnone.mpr (by simp [hq]))
      exact ⟨r, hr, hsame p.2 r hq hr⟩

/-- Components are the same if one of them can be put in the order of the other, so that they hold
the same queries one by one. -/
theorem same_iff_perm (hc : c.Built) (hd : d.Built) : c.same d = true ↔
    c.container = d.container ∧ ∃ ps, ps.Perm d.properties ∧
      List.Forall₂ (fun p r => p.1 = r.1 ∧ p.2.same r.2 = true) c.properties ps := by
  constructor
  · intro h
    obtain ⟨hcontainer, hlength, hdeclared⟩ := same_iff_declared.mp h
    refine ⟨hcontainer, c.properties.map fun p => (p.1, (d.property? p.1).getD p.2), ?_, ?_⟩
    · have hnodup : (c.properties.map fun p => (p.1, (d.property? p.1).getD p.2)).Nodup := by
        refine List.Nodup.of_map Prod.fst ?_
        rw [List.map_map]
        exact hc.nodup
      refine (hnodup.subperm ?_).perm_of_length_le ?_
      · intro p hp
        obtain ⟨p', hp', rfl⟩ := List.mem_map.mp hp
        obtain ⟨r, hr, -⟩ := hdeclared p' hp'
        rw [hr]
        exact mem_of_lookup hr
      · exact Nat.le_of_eq (by rw [List.length_map, hlength])
    · rw [List.forall₂_map_right_iff, List.forall₂_same]
      intro p hp
      obtain ⟨r, hr, hsame⟩ := hdeclared p hp
      rw [hr]
      exact ⟨rfl, hsame⟩
  · rintro ⟨hcontainer, ps, hperm, heach⟩
    refine same_iff_declared.mpr ⟨hcontainer, heach.length_eq.trans hperm.length_eq, ?_⟩
    intro p hp
    obtain ⟨r, hr, hname, hsame⟩ := Json.exists_of_mem_forall₂ heach.flip hp
    refine ⟨r.2, ?_, hsame⟩
    rw [hname]
    exact lookup_of_mem hd.nodup (hperm.mem_iff.mp hr)

end Component

namespace Query

theorem same_raw {s : String} {q : Query} : (raw s).same q = true ↔ q = raw s := by
  cases q with
  | raw t => rw [same, beq_iff_eq, raw.injEq, eq_comm]
  | component d => simp [same]

theorem same_component {c : Component} {q : Query} :
    (component c).same q = true ↔ ∃ d, q = component d ∧ c.same d = true := by
  cases q with
  | raw t => simp [same]
  | component d => simp [same]

/-- What holds of locators, and of a component if it holds of its queries, holds of all queries that
can be built. -/
theorem Built.induct {motive : (q : Query) → q.Built → Prop}
    (raw : ∀ s, motive (.raw s) (.raw s))
    (component : ∀ (c : Component) (hc : c.Built),
      (∀ p (hp : p ∈ c.properties), motive p.2 (hc.of_mem hp)) → motive (.component c) hc)
    {q : Query} (h : q.Built) : motive q h := by
  induction h with
  | raw s => exact raw s
  | component container ps each ih =>
      refine component _ (.component container ps each) fun p hp => ?_
      exact ih p (Component.mem_of_mem_properties_declareAll hp)

theorem Built.same_self {q : Query} (h : q.Built) : q.same q = true := by
  induction h using Built.induct with
  | raw s => exact same_raw.mpr rfl
  | component c hc ih =>
      refine same_component.mpr ⟨c, rfl, Component.same_iff_declared.mpr ⟨rfl, rfl, ?_⟩⟩
      exact fun p hp => ⟨p.2, lookup_of_mem hc.nodup hp, ih p hp⟩

theorem Built.same_symm {q r : Query} (hq : q.Built) (hr : r.Built) (h : q.same r = true) :
    r.same q = true := by
  induction hq using Built.induct generalizing r with
  | raw s =>
      rw [same_raw.mp h]
      exact same_raw.mpr rfl
  | component c hc ih =>
      obtain ⟨d, rfl, h⟩ := same_component.mp h
      refine same_component.mpr ⟨c, rfl, ?_⟩
      obtain ⟨hcontainer, heach⟩ := (Component.same_iff_property? hc hr).mp h
      refine (Component.same_iff_property? hr hc).mpr ⟨hcontainer.symm, fun n => ?_⟩
      obtain ⟨hnone, hsame⟩ := rel_iff.mp (heach n)
      refine rel_iff.mpr ⟨hnone.symm, fun r q hr' hq => ?_⟩
      exact ih (n, q) (mem_of_lookup hq) (Component.Built.of_property? hr hr')
        (hsame q r hq hr')

theorem Built.same_trans {p q r : Query} (hp : p.Built) (h : p.same q = true)
    (h' : q.same r = true) : p.same r = true := by
  induction hp using Built.induct generalizing q r with
  | raw s =>
      rw [same_raw.mp h] at h'
      exact h'
  | component b hb ih =>
      obtain ⟨c, rfl, h⟩ := same_component.mp h
      obtain ⟨d, rfl, h'⟩ := same_component.mp h'
      refine same_component.mpr ⟨d, rfl, ?_⟩
      obtain ⟨hcontainer, hlength, hdeclared⟩ := Component.same_iff_declared.mp h
      obtain ⟨hcontainer', hlength', hdeclared'⟩ := Component.same_iff_declared.mp h'
      refine Component.same_iff_declared.mpr
        ⟨hcontainer.trans hcontainer', hlength.trans hlength', fun p hp => ?_⟩
      obtain ⟨q, hq, hpq⟩ := hdeclared p hp
      obtain ⟨r, hr, hqr⟩ := hdeclared' (p.1, q) (mem_of_lookup hq)
      exact ⟨r, hr, ih p hp hpq hqr⟩

theorem locator_eq_of_same {q r : Query} (h : q.same r = true) : q.locator = r.locator := by
  cases q with
  | raw s => rw [same_raw.mp h]
  | component c =>
      obtain ⟨d, rfl, h⟩ := same_component.mp h
      exact (Component.same_iff_declared.mp h).1

end Query

end MarkupQuery
