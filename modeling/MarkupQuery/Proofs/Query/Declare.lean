import Mathlib.Data.List.Induction
import MarkupQuery.Query.Basic

/-!
# Declared properties

What a sequence of declarations makes of a component. A name stands where it was declared first
(`Component.propertyNames_declareAll`) and holds the query that was declared for it last
(`Component.property?_declareAll`).
-/

namespace MarkupQuery

/-! ### One declaration -/

theorem lookup_insertProperty (name : String) (q : Query) (ps : List (String × Query))
    (n : String) :
    (insertProperty name q ps).lookup n = if n = name then some q else ps.lookup n := by
  induction ps with
  | nil =>
      rw [insertProperty, List.lookup_cons]
      by_cases h : n = name
      · simp [h]
      · simp [h, beq_false_of_ne h]
  | cons p ps ih =>
      obtain ⟨m, r⟩ := p
      rw [insertProperty]
      by_cases hm : m = name
      · subst hm
        rw [if_pos rfl, List.lookup_cons, List.lookup_cons]
        by_cases h : n = m
        · simp [h]
        · simp [h, beq_false_of_ne h]
      · rw [if_neg hm, List.lookup_cons, List.lookup_cons]
        by_cases h : n = m
        · subst h
          simp [hm]
        · simp [beq_false_of_ne h, ih]

theorem names_insertProperty (name : String) (q : Query) (ps : List (String × Query)) :
    (insertProperty name q ps).map Prod.fst =
      if name ∈ ps.map Prod.fst then ps.map Prod.fst else ps.map Prod.fst ++ [name] := by
  induction ps with
  | nil => rfl
  | cons p ps ih =>
      obtain ⟨m, r⟩ := p
      rw [insertProperty]
      by_cases hm : m = name
      · simp [hm]
      · rw [if_neg hm, List.map_cons, ih]
        have hne : name ≠ m := fun h => hm h.symm
        by_cases hmem : name ∈ ps.map Prod.fst
        · simp [hmem, -List.mem_map]
        · simp [hmem, hne, -List.mem_map]

/-- Nothing is declared but what is inserted and what was there before. -/
theorem mem_insertProperty {name : String} {q : Query} {ps : List (String × Query)}
    {p : String × Query} (h : p ∈ insertProperty name q ps) : p = (name, q) ∨ p ∈ ps := by
  induction ps with
  | nil => exact Or.inl (List.mem_singleton.mp h)
  | cons r ps ih =>
      obtain ⟨m, r⟩ := r
      rw [insertProperty] at h
      split at h
      · rename_i hm
        rcases List.mem_cons.mp h with rfl | h
        · exact Or.inl (by rw [hm])
        · exact Or.inr (List.mem_cons_of_mem _ h)
      · rcases List.mem_cons.mp h with rfl | h
        · exact Or.inr List.mem_cons_self
        · exact (ih h).imp id (List.mem_cons_of_mem _)

/-! ### Declarations one after the other -/

namespace Component

def declareAll (c : Component) (ps : List (String × Query)) : Component :=
  ps.foldl (fun c p => c.declare p.1 p.2) c

theorem declareAll_append_singleton (c : Component) (ps : List (String × Query))
    (p : String × Query) :
    c.declareAll (ps ++ [p]) = (c.declareAll ps).declare p.1 p.2 := by
  simp [declareAll]

/-- Declarations leave the container as it is. -/
theorem container_declareAll (c : Component) (ps : List (String × Query)) :
    (c.declareAll ps).container = c.container := by
  induction ps using List.reverseRecOn with
  | nil => rfl
  | append_singleton ps p ih => rw [declareAll_append_singleton, declare, ih]

/-- The names of the properties are those declared, each where it was declared first. -/
theorem propertyNames_declareAll (container : String) (ps : List (String × Query)) :
    ((new container).declareAll ps).propertyNames = (ps.map Prod.fst).eraseDups := by
  induction ps using List.reverseRecOn with
  | nil => rfl
  | append_singleton ps p ih =>
      rw [declareAll_append_singleton, propertyNames, declare, names_insertProperty, List.map_append,
        List.eraseDups_append, ← propertyNames, ih]
      by_cases hmem : p.1 ∈ ps.map Prod.fst
      · simp [hmem, List.removeAll, -List.mem_map]
      · simp [hmem, List.removeAll, List.eraseDups_cons, -List.mem_map]

/-- A property is the query that was declared for its name last. -/
theorem property?_declareAll (container : String) (ps : List (String × Query)) (n : String) :
    ((new container).declareAll ps).property? n = ps.reverse.lookup n := by
  induction ps using List.reverseRecOn with
  | nil => rfl
  | append_singleton ps p ih =>
      rw [declareAll_append_singleton, property?, declare, lookup_insertProperty, ← property?, ih,
        List.reverse_append, List.reverse_singleton, List.singleton_append, List.lookup_cons]
      by_cases h : n = p.1
      · simp [h]
      · simp [h, beq_false_of_ne h]

/-- Every property was declared. -/
theorem mem_of_mem_properties_declareAll {container : String} {ps : List (String × Query)}
    {p : String × Query} (h : p ∈ ((new container).declareAll ps).properties) : p ∈ ps := by
  induction ps using List.reverseRecOn with
  | nil => cases h
  | append_singleton ps r ih =>
      rw [declareAll_append_singleton, declare] at h
      rcases mem_insertProperty h with rfl | h
      · exact List.mem_append_right _ (List.mem_singleton_self _)
      · exact List.mem_append_left _ (ih h)

end Component

end MarkupQuery
