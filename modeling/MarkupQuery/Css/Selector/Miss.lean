import MarkupQuery.Css.Selector.Matching

/-!
# Tries that miss

To match the left part of a selector, the elements that a combinator leads to are tried one after
the other. A try that misses says how far the miss reaches, so that tries which cannot do any
better are left out: where the way ends, no sibling in front gets any further, and where no element
above is left, nothing further out does. Without this a chain of combinators would be tried again
for every choice of elements.

* `leftMiss?` looks for a match in this order.
* `leftMiss?_eq_none_iff` says that leaving tries out loses no match.
-/

namespace MarkupQuery.Css

/-- How far a miss reaches. -/
inductive Miss where
  /-- Only the element that was tried is ruled out. -/
  | here
  /-- So are the sibling elements in front of it. -/
  | row
  /-- So is everything outward from it. -/
  | outward
  deriving DecidableEq, Repr

namespace Combinator

/-- The miss when a combinator leads to no element any more. -/
def exhausted : Combinator → Miss
  | child | descendant => .outward
  | next | later => .row

/-- What a miss where a combinator leads to means where it comes from. There is no answer while
another element can be tried. -/
def verdict? : Combinator → Miss → Option Miss
  | _, .outward => some .outward
  | child, _ => some .row
  | next, m => some m
  | later, .row => some .row
  | later, .here => none
  | descendant, _ => none

end Combinator

def firstMiss? (via : Combinator) (miss? : Cursor → Option Miss) : List Cursor → Option Miss
  | [] => some via.exhausted
  | d :: ds =>
    match miss? d with
    | none => none
    | some m =>
      match via.verdict? m with
      | some m => some m
      | none => firstMiss? via miss? ds

/-- Whether and how far the left part of a selector misses around an element. -/
def leftMiss? : List (Combinator × Compound) → Cursor → Option Miss
  | [], _ => none
  | (via, k) :: rest, c =>
    firstMiss? via (fun d => if k.holds d then leftMiss? rest d else some .here) (c.related via)

def Complex.selects (s : Complex) (c : Cursor) : Bool :=
  c.isElement && s.subject.holds c && (leftMiss? s.left c).isNone

def SelectorList.selects (l : SelectorList) (c : Cursor) : Bool :=
  l.any (·.selects c)

/-! ### No match is lost -/

/-- What a miss rules out. -/
def Miss.RulesOut (p : Cursor → Prop) (c : Cursor) : Miss → Prop
  | .here => ¬ p c
  | .row => ¬ p c ∧ ∀ d ∈ c.precedingElements, ¬ p d
  | .outward => ∀ d, c.Outward d → ¬ p d

namespace Miss.RulesOut

theorem self {p : Cursor → Prop} {c : Cursor} {m : Miss} (h : m.RulesOut p c) : ¬ p c := by
  cases m with
  | here => exact h
  | row => exact h.1
  | outward => exact h c (.refl c)

theorem mono {p q : Cursor → Prop} {c : Cursor} {m : Miss} (hqp : ∀ d, q d → p d)
    (h : m.RulesOut p c) : m.RulesOut q c := by
  cases m with
  | here => exact fun hq => h (hqp c hq)
  | row => exact ⟨fun hq => h.1 (hqp c hq), fun d hd hq => h.2 d hd (hqp d hq)⟩
  | outward => exact fun d hd hq => h d hd (hqp d hq)

end Miss.RulesOut

/-- The tries either find a match, or end with a verdict after misses that have none, or run out. -/
theorem firstMiss?_cases (via : Combinator) (miss? : Cursor → Option Miss) (ds : List Cursor) :
    (firstMiss? via miss? ds = none ∧ ∃ d ∈ ds, miss? d = none) ∨
    (∃ xs d ys m v, ds = xs ++ d :: ys ∧ (∀ x ∈ xs, ∃ n, miss? x = some n) ∧ miss? d = some m ∧
      via.verdict? m = some v ∧ firstMiss? via miss? ds = some v) ∨
    (firstMiss? via miss? ds = some via.exhausted ∧ ∀ d ∈ ds, ∃ n, miss? d = some n) := by
  induction ds with
  | nil => exact .inr (.inr ⟨rfl, by simp⟩)
  | cons d ds ih =>
    cases hd : miss? d with
    | none => exact .inl ⟨by simp [firstMiss?, hd], d, by simp, hd⟩
    | some m =>
      cases hv : via.verdict? m with
      | some v =>
        exact .inr (.inl ⟨[], d, ds, m, v, rfl, by simp, hd, hv, by simp [firstMiss?, hd, hv]⟩)
      | none =>
        have step : firstMiss? via miss? (d :: ds) = firstMiss? via miss? ds := by
          simp [firstMiss?, hd, hv]
        rw [step]
        rcases ih with ⟨h, e, he, hm⟩ | ⟨xs, e, ys, n, v, rfl, hxs, he, hv', h⟩ | ⟨h, hall⟩
        · exact .inl ⟨h, e, List.mem_cons_of_mem _ he, hm⟩
        · refine .inr (.inl ⟨d :: xs, e, ys, n, v, rfl, ?_, he, hv', h⟩)
          intro x hx
          rcases List.mem_cons.1 hx with rfl | hx
          · exact ⟨m, hd⟩
          · exact hxs x hx
        · refine .inr (.inr ⟨h, ?_⟩)
          intro x hx
          rcases List.mem_cons.1 hx with rfl | hx
          · exact ⟨m, hd⟩
          · exact hall x hx

/-- Whether a combinator leads to an element that passes a test. -/
def Reached (via : Combinator) (p : Cursor → Prop) (c : Cursor) : Prop :=
  ∃ d ∈ c.related via, p d

section Verdicts

variable {p : Cursor → Prop} {c d : Cursor} {m v : Miss}

theorem related_child (c : Cursor) : c.related .child = c.parentElement?.toList := rfl

theorem related_next (c : Cursor) : c.related .next = c.precedingElements.take 1 := rfl

/-- Where nothing outward from the parent passes, no step up from a place outward leads to anything
that does. -/
theorem not_reached_child_of_outward (hp : c.parentElement? = some d)
    (h : ∀ e, d.Outward e → ¬ p e) {e : Cursor} (out : c.Outward e) : ¬ Reached .child p e := by
  rintro ⟨a, ha, hpa⟩
  have ha' : a ∈ e.ancestorElements := by
    rw [Cursor.ancestorElements_eq]
    rw [related_child, Option.mem_toList] at ha
    rw [ha]
    exact List.mem_cons_self
  have := out.mem_ancestorElements ha'
  rw [Cursor.ancestorElements_eq, hp] at this
  rcases List.mem_cons.1 this with rfl | this
  · exact h _ (.refl _) hpa
  · exact h _ (.of_mem_ancestorElements this) hpa

theorem rulesOut_child_none (hp : c.parentElement? = none) :
    Miss.outward.RulesOut (Reached .child p) c := by
  rintro e out ⟨a, ha, -⟩
  have ha' : a ∈ e.ancestorElements := by
    rw [Cursor.ancestorElements_eq]
    rw [related_child, Option.mem_toList] at ha
    rw [ha]
    exact List.mem_cons_self
  have := out.mem_ancestorElements ha'
  rw [Cursor.ancestorElements_eq, hp] at this
  simp at this

theorem rulesOut_child (hp : c.parentElement? = some d) (h : m.RulesOut p d)
    (hv : Combinator.child.verdict? m = some v) : v.RulesOut (Reached .child p) c := by
  have key : ∀ e : Cursor, e.parentElement? = some d → ¬ Reached .child p e := by
    rintro e he ⟨a, ha, hpa⟩
    rw [related_child, he] at ha
    simp only [Option.toList_some, List.mem_singleton] at ha
    exact h.self (ha ▸ hpa)
  cases m <;> cases hv
  · exact ⟨key c hp, fun e he => key e (Cursor.parentElement?_of_mem_precedingElements he ▸ hp)⟩
  · exact ⟨key c hp, fun e he => key e (Cursor.parentElement?_of_mem_precedingElements he ▸ hp)⟩
  · exact fun e out => not_reached_child_of_outward hp h out

theorem rulesOut_descendant (h : ∀ a ∈ c.ancestorElements, ¬ p a) :
    Miss.outward.RulesOut (Reached .descendant p) c :=
  fun _ out ⟨a, ha, hpa⟩ => h a (out.mem_ancestorElements ha) hpa

theorem rulesOut_next_none (h : c.precedingElements = []) :
    Miss.row.RulesOut (Reached .next p) c := by
  refine ⟨?_, by simp [h]⟩
  rintro ⟨a, ha, -⟩
  simp [related_next, h] at ha

theorem rulesOut_next {ds : List Cursor} (hc : c.precedingElements = d :: ds) (h : m.RulesOut p d) :
    m.RulesOut (Reached .next p) c := by
  have here : ¬ Reached .next p c := by
    rintro ⟨a, ha, hpa⟩
    rw [related_next, hc] at ha
    simp only [List.take_succ_cons, List.take_zero, List.mem_singleton] at ha
    exact h.self (ha ▸ hpa)
  have step : ∀ e : Cursor, Reached .next p e → ∃ a ∈ e.precedingElements, p a :=
    fun e ⟨a, ha, hpa⟩ => ⟨a, List.mem_of_mem_take ha, hpa⟩
  have behind : ∀ e ∈ c.precedingElements, ∀ a ∈ e.precedingElements, a ∈ d.precedingElements := by
    intro e he a ha
    rw [hc] at he
    rcases List.mem_cons.1 he with rfl | he
    · exact ha
    · rw [← Cursor.precedingElements_of_eq_cons hc] at he
      exact Cursor.mem_precedingElements_trans he ha
  have hd : d ∈ c.precedingElements := by simp [hc]
  cases m with
  | here => exact here
  | row =>
    refine ⟨here, fun e he hr => ?_⟩
    obtain ⟨a, ha, hpa⟩ := step e hr
    exact h.2 a (behind e he a ha) hpa
  | outward =>
    intro e out hr
    obtain ⟨a, ha, hpa⟩ := step e hr
    cases out with
    | refl => exact here hr
    | before he out =>
      have : a ∈ c.precedingElements ∨ ∃ q, c.parentElement? = some q ∧ Cursor.Outward q a :=
        (Cursor.Outward.before he out).mem_precedingElements ha
      rcases this with ha' | ⟨q, hq, hqa⟩
      · rw [hc] at ha'
        rcases List.mem_cons.1 ha' with rfl | ha'
        · exact h _ (.refl _) hpa
        · rw [← Cursor.precedingElements_of_eq_cons hc] at ha'
          exact h _ (.of_mem_precedingElements ha') hpa
      · exact h _ (.up (Cursor.parentElement?_of_mem_precedingElements hd ▸ hq) hqa) hpa
    | up hq out =>
      exact h _ (.up (Cursor.parentElement?_of_mem_precedingElements hd ▸ hq)
        (out.trans (.of_mem_precedingElements ha))) hpa

theorem rulesOut_later_row (h : ∀ a ∈ c.precedingElements, ¬ p a) :
    Miss.row.RulesOut (Reached .later p) c :=
  ⟨fun ⟨a, ha, hpa⟩ => h a ha hpa, fun _ he ⟨a, ha, hpa⟩ =>
    h a (Cursor.mem_precedingElements_trans he ha) hpa⟩

theorem rulesOut_later_outward (h : ∀ a ∈ c.precedingElements, ¬ p a)
    (hd : d ∈ c.precedingElements) (h' : ∀ e, d.Outward e → ¬ p e) :
    Miss.outward.RulesOut (Reached .later p) c := by
  rintro e out ⟨a, ha, hpa⟩
  rcases out.mem_precedingElements ha with ha | ⟨q, hq, hqa⟩
  · exact h a ha hpa
  · exact h' a (.up (Cursor.parentElement?_of_mem_precedingElements hd ▸ hq) hqa) hpa

end Verdicts

/-- The tries find a match exactly if there is one, and a miss rules out what it says. -/
theorem firstMiss?_related (via : Combinator) (miss? : Cursor → Option Miss) (p : Cursor → Prop)
    (hit : ∀ d, miss? d = none → p d) (miss : ∀ d m, miss? d = some m → m.RulesOut p d)
    (c : Cursor) :
    (firstMiss? via miss? (c.related via) = none → Reached via p c) ∧
      ∀ m, firstMiss? via miss? (c.related via) = some m → m.RulesOut (Reached via p) c := by
  have misses {xs : List Cursor} (h : ∀ x ∈ xs, ∃ n, miss? x = some n) : ∀ x ∈ xs, ¬ p x :=
    fun x hx => let ⟨n, hn⟩ := h x hx; (miss x n hn).self
  rcases firstMiss?_cases via miss? (c.related via) with
    ⟨h, d, hd, hm⟩ | ⟨xs, d, ys, m, v, hds, hxs, hm, hv, h⟩ | ⟨h, hall⟩
  · exact ⟨fun _ => ⟨d, hd, hit d hm⟩, by simp [h]⟩
  · refine ⟨by simp [h], fun v' hv' => ?_⟩
    obtain rfl : v = v' := Option.some.inj (h.symm.trans hv')
    have hd := miss d m hm
    have hxs' := misses hxs
    cases via with
    | child =>
      rw [related_child] at hds
      cases hp : c.parentElement? with
      | none => simp [hp] at hds
      | some q =>
        rw [hp, Option.toList_some, List.singleton_eq_append_iff] at hds
        have hq : d = q := by
          rcases hds with ⟨-, h⟩ | ⟨-, h⟩
          · exact (List.cons.inj h).1
          · cases h
        exact rulesOut_child (hq ▸ hp) hd hv
    | descendant =>
      cases m <;> cases hv
      refine rulesOut_descendant fun a ha => ?_
      have hds' : c.ancestorElements = xs ++ d :: ys := hds
      rw [hds'] at ha
      rcases List.mem_append.1 ha with ha | ha
      · exact hxs' a ha
      · rcases List.mem_cons.1 ha with rfl | ha
        · exact hd.self
        · rw [← Cursor.ancestorElements_of_eq_append hds'] at ha
          exact hd a (.of_mem_ancestorElements ha)
    | next =>
      have hv' : m = v := by cases m <;> cases hv <;> rfl
      rw [related_next] at hds
      cases hc : c.precedingElements with
      | nil => simp [hc] at hds
      | cons e es =>
        rw [hc, List.take_succ_cons, List.take_zero, List.singleton_eq_append_iff] at hds
        have he : d = e := by
          rcases hds with ⟨-, h⟩ | ⟨-, h⟩
          · exact (List.cons.inj h).1
          · cases h
        exact hv' ▸ rulesOut_next (he ▸ hc) hd
    | later =>
      have hds' : c.precedingElements = xs ++ d :: ys := hds
      have hys := Cursor.precedingElements_of_eq_append hds'
      have allFront {q : Cursor → Prop} (hq : ∀ a ∈ d.precedingElements, ¬ q a) (hq' : ¬ q d)
          (hxq : ∀ x ∈ xs, ¬ q x) : ∀ a ∈ c.precedingElements, ¬ q a := by
        intro a ha
        rw [hds'] at ha
        rcases List.mem_append.1 ha with ha | ha
        · exact hxq a ha
        · rcases List.mem_cons.1 ha with rfl | ha
          · exact hq'
          · exact hq a (hys ▸ ha)
      cases m <;> cases hv
      · exact rulesOut_later_row (allFront hd.2 hd.1 hxs')
      · refine rulesOut_later_outward
          (allFront (fun a ha => hd a (.of_mem_precedingElements ha)) hd.self hxs') ?_ hd
        simp [hds']
  · refine ⟨by simp [h], fun v hv => ?_⟩
    obtain rfl : via.exhausted = v := Option.some.inj (h.symm.trans hv)
    have noneLeft := misses hall
    cases via with
    | child =>
      cases hp : c.parentElement? with
      | none => exact rulesOut_child_none hp
      | some q =>
        obtain ⟨n, hn⟩ := hall q (by simp [related_child, hp])
        have : firstMiss? .child miss? (c.related .child) = some .outward := h
        rw [related_child, hp, Option.toList_some] at this
        cases n with
        | here => simp [firstMiss?, hn, Combinator.verdict?] at this
        | row => simp [firstMiss?, hn, Combinator.verdict?] at this
        | outward => exact rulesOut_child hp (miss q _ hn) rfl
    | descendant => exact rulesOut_descendant noneLeft
    | next =>
      cases hc : c.precedingElements with
      | nil => exact rulesOut_next_none hc
      | cons e es =>
        obtain ⟨n, hn⟩ := hall e (by simp [related_next, hc])
        have : firstMiss? .next miss? (c.related .next) = some .row := h
        rw [related_next, hc, List.take_succ_cons, List.take_zero] at this
        cases n with
        | here => simp [firstMiss?, hn, Combinator.verdict?] at this
        | row => exact rulesOut_next hc (miss e _ hn)
        | outward => simp [firstMiss?, hn, Combinator.verdict?] at this
    | later => exact rulesOut_later_row noneLeft

theorem leftMiss?_rulesOut (l : List (Combinator × Compound)) (c : Cursor) :
    (leftMiss? l c = none → leftHolds l c) ∧
      ∀ m, leftMiss? l c = some m → m.RulesOut (leftHolds l · = true) c := by
  induction l generalizing c with
  | nil => simp [leftMiss?, leftHolds]
  | cons step rest ih =>
    obtain ⟨via, k⟩ := step
    have hp : ∀ e : Cursor, leftHolds ((via, k) :: rest) e = true ↔
        Reached via (fun d => k.holds d && leftHolds rest d) e := by
      intro e
      simp [leftHolds, Reached]
    have := firstMiss?_related via
      (fun d => if k.holds d then leftMiss? rest d else some .here)
      (fun d => k.holds d && leftHolds rest d)
      (by
        intro d hd
        split at hd
        · rename_i hk
          simp [hk, (ih d).1 hd]
        · cases hd)
      (by
        intro d m hd
        split at hd
        · exact ((ih d).2 m hd).mono fun e he => by simp_all
        · rename_i hk
          cases hd
          simpa [Miss.RulesOut] using fun h => absurd h hk)
      c
    exact ⟨fun h => (hp c).2 (this.1 h), fun m h => (this.2 m h).mono fun e => (hp e).1⟩

/-- Leaving tries out loses no match. -/
theorem leftMiss?_eq_none_iff (l : List (Combinator × Compound)) (c : Cursor) :
    leftMiss? l c = none ↔ leftHolds l c = true := by
  refine ⟨(leftMiss?_rulesOut l c).1, fun h => ?_⟩
  cases hm : leftMiss? l c with
  | none => rfl
  | some m => exact absurd h ((leftMiss?_rulesOut l c).2 m hm).self

/-- A selector selects the elements that its subject matches and around which its left part can be
matched. -/
theorem Complex.selects_eq (s : Complex) (c : Cursor) :
    s.selects c = (c.isElement && s.subject.holds c && leftHolds s.left c) := by
  have : (leftMiss? s.left c).isNone = leftHolds s.left c := by
    rw [Bool.eq_iff_iff, Option.isNone_iff_eq_none, leftMiss?_eq_none_iff]
  rw [Complex.selects, this]

end MarkupQuery.Css
