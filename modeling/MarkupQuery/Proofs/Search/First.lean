import MarkupQuery.Proofs.Search.Descendants

/-!
# The first of all nodes

A search reads nothing of its source of ids but the next one, and nothing of its locator but the CSS
selector and whether there is a sign in front (`Search.answer_find_congr`). Whatever that id is, the
search for the first node finds the first of the nodes that the search for all nodes finds, and it
fails if that one fails (`Search.firstOf_find`).
-/

namespace MarkupQuery

section

variable {α β : Type} {f : α → β} {a : Except Error α}

theorem map_eq_error_iff {e : Error} : a.map f = .error e ↔ a = .error e := by
  cases a <;> simp [Except.map]

theorem map_eq_ok_iff {b : β} : a.map f = .ok b ↔ ∃ x, a = .ok x ∧ f x = b := by
  cases a <;> simp [Except.map]

end

namespace Search

open Css

variable {l l' : Locator} {css : String} {scope : Cursor} {want : Want}
  {markers markers' : Marker.Source} {paths : List Path} {e : Error}

/-! ### What a search depends on -/

theorem answer_belowChildren_congr (hid : markers.next.1 = markers'.next.1) :
    (belowChildren css scope markers).answer = (belowChildren css scope markers').answer := by
  unfold belowChildren
  cases SelectorList.ofText? css with
  | none => rfl
  | some entries =>
      by_cases hcan : canMark scope = true
      · simp only [hcan, if_true, hid]
      · simp only [hcan, if_false, Bool.false_eq_true]

theorem answer_find_congr (hcss : l.css = l'.css) (hchild : l.childScoped = l'.childScoped)
    (hid : markers.next.1 = markers'.next.1) :
    (find l scope want markers).answer = (find l' scope want markers').answer := by
  unfold find Locator.isSelf
  rw [hcss, hchild]
  by_cases hl : l'.childScoped = true
  · simp only [hl, if_true, answer_belowChildren_congr hid]
  · simp only [hl, if_false, Bool.false_eq_true]
    split
    · rfl
    · rfl

/-- A locator is searched below the children of the scope, or it means the scope, or it is searched
below the scope; which of these it is does not depend on how many nodes are wanted, nor on the next
id. -/
theorem find_cases (l : Locator) (scope : Cursor) :
    (l.childScoped = true ∧ ∀ want markers, (find l scope want markers).answer =
      (belowChildren l.css scope markers).answer.map want.cut) ∨
    (l.childScoped = false ∧ ∀ want markers,
      (find l scope want markers).answer = .ok [scope.path]) ∨
    (l.childScoped = false ∧ ∀ want markers,
      (find l scope want markers).answer = below l.css scope want) := by
  unfold find
  by_cases hl : l.childScoped = true
  · refine .inl ⟨hl, fun want markers => ?_⟩
    rw [if_pos hl]
  · by_cases hself : l.isSelf = true
    · refine .inr (.inl ⟨Bool.not_eq_true _ ▸ hl, fun want markers => ?_⟩)
      rw [if_neg hl, if_pos hself]
    · refine .inr (.inr ⟨Bool.not_eq_true _ ▸ hl, fun want markers => ?_⟩)
      rw [if_neg hl, if_neg hself]

/-! ### Errors -/

theorem orNoMatch_eq_error_iff {css : String} {sought : Sought} {found : List Path} {e : Error} :
    orNoMatch css sought found = .error e ↔ found = [] ∧ e = .noMatch css sought := by
  cases found with
  | nil => simp [orNoMatch, eq_comm]
  | cons p found => simp [orNoMatch]

theorem ne_nil_of_orNoMatch {css : String} {sought : Sought} {found paths : List Path}
    (h : orNoMatch css sought found = .ok paths) : paths ≠ [] := by
  rw [orNoMatch] at h
  split at h
  · cases h
  · rename_i hne
    cases h
    simpa using hne

/-- A child-scoped search cannot read its selector, or its answer is made of what it found. -/
theorem belowChildren_cases (css : String) (scope : Cursor) (markers : Marker.Source) :
    (belowChildren css scope markers).answer = .error (.badSelector css) ∨
      ∃ found, (belowChildren css scope markers).answer = orNoMatch css .childNodes found := by
  unfold belowChildren
  split
  · exact .inl rfl
  · split
    · dsimp only
      split
      · exact .inl rfl
      · exact .inr ⟨_, rfl⟩
    · exact .inr ⟨_, rfl⟩

theorem ne_nil_of_belowChildren (h : (belowChildren css scope markers).answer = .ok paths) :
    paths ≠ [] := by
  rcases belowChildren_cases css scope markers with hbad | ⟨found, hfound⟩
  · rw [hbad] at h
    cases h
  · rw [hfound] at h
    exact ne_nil_of_orNoMatch h

theorem error_of_belowChildren (h : (belowChildren css scope markers).answer = .error e) :
    e = .badSelector css ∨ e = .noMatch css .childNodes := by
  rcases belowChildren_cases css scope markers with hbad | ⟨found, hfound⟩
  · rw [hbad] at h
    cases h
    exact .inl rfl
  · rw [hfound, orNoMatch_eq_error_iff] at h
    exact .inr h.2

theorem error_of_below (h : below css scope want = .error e) :
    e = .badSelector css ∨ e = .noMatch css want.sought := by
  unfold below at h
  split at h
  · cases h
    exact .inl rfl
  · exact .inr (orNoMatch_eq_error_iff.mp h).2

/-- A search fails with its selector or finds no match, whatever the next id is. -/
theorem error_of_find (h : (find l scope want markers).answer = .error e) :
    e = .badSelector l.css ∨ e = .noMatch l.css (sought l want) := by
  unfold sought
  rcases find_cases l scope with ⟨hl, hfind⟩ | ⟨hl, hfind⟩ | ⟨hl, hfind⟩
  · rw [hfind, map_eq_error_iff] at h
    rw [if_pos hl]
    exact error_of_belowChildren h
  · rw [hfind] at h
    cases h
  · rw [hfind] at h
    rw [hl, if_neg Bool.false_ne_true]
    exact error_of_below h

/-! ### The first and all -/

/-- An answer of one finding and an answer of all findings that go together: the one finding is the
first of all, or both fail with the same error. Only where a plain locator finds no match the errors
differ in how many nodes they say were searched for. -/
inductive FirstOf {α : Type} (l? : Option Locator) :
    Except Error (List α) → Except Error (List α) → Prop where
  | found (a : α) (as : List α) : FirstOf l? (.ok [a]) (.ok (a :: as))
  | noMatch {l : Locator} (hl : l? = some l) (hplain : l.childScoped = false) :
      FirstOf l? (.error (.noMatch l.css .node)) (.error (.noMatch l.css .nodes))
  | error {e : Error} (he : ∀ l, l? = some l → l.childScoped = false → e.isNoMatch = false) :
      FirstOf l? (.error e) (.error e)

theorem FirstOf.map {α β : Type} {l? : Option Locator} {a b : Except Error (List α)}
    (h : FirstOf l? a b) (f : α → β) : FirstOf l? (a.map (List.map f)) (b.map (List.map f)) := by
  cases h with
  | found a as => exact .found (f a) (as.map f)
  | noMatch hl hplain => exact .noMatch hl hplain
  | error he => exact .error he

theorem firstOf_below (hl : l.childScoped = false) :
    FirstOf (some l) (below l.css scope .first) (below l.css scope .all) := by
  unfold below
  cases SelectorList.ofText? l.css with
  | none =>
      apply FirstOf.error
      intros
      rfl
  | some entries =>
      dsimp only
      cases select entries scope.descendants with
      | nil => exact .noMatch rfl hl
      | cons p ps => exact .found p ps

theorem firstOf_find (hid : markers.next.1 = markers'.next.1) :
    FirstOf (some l) (find l scope .first markers).answer (find l scope .all markers').answer := by
  rcases find_cases l scope with ⟨hl, hfind⟩ | ⟨hl, hfind⟩ | ⟨hl, hfind⟩
  · -- both cut the same list of findings, which is not empty
    rw [hfind, hfind, answer_belowChildren_congr hid]
    cases hfound : (belowChildren l.css scope markers').answer with
    | error e =>
        apply FirstOf.error
        rintro _ ⟨⟩ hplain
        rw [hl] at hplain
        cases hplain
    | ok paths =>
        obtain ⟨p, ps, rfl⟩ := List.exists_cons_of_ne_nil (ne_nil_of_belowChildren hfound)
        exact .found p ps
  · rw [hfind, hfind]
    exact .found scope.path []
  · rw [hfind, hfind]
    exact firstOf_below hl

/-- A search for the first node finds one node or fails. -/
theorem exists_of_find_first (h : (find l scope .first markers).answer = .ok paths) :
    ∃ p, paths = [p] := by
  have hfirst : FirstOf (some l) _ (find l scope .all markers).answer := firstOf_find rfl
  rw [h] at hfirst
  generalize (find l scope .all markers).answer = all at hfirst
  cases hfirst with
  | found p ps => exact ⟨p, rfl⟩

end Search

end MarkupQuery
