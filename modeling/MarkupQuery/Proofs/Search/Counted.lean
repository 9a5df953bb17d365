import Mathlib.Algebra.Group.Nat.Defs
import Mathlib.Data.List.Nodup
import MarkupQuery.Proofs.Search.Children

/-!
# Marks of a counting source

A counting source has, after `n` ids, handed out the numbers below `n` and goes on with `n`
(`Marker.Source.HasCounted`); one step keeps that as long as the counter does not run over, and so
does a run. The ids are the numbers written in decimal, and so they are pairwise distinct.

A class made of any of them does what a mark is for (`Search.MarksWith`), whatever the `class`
attribute of the marked element held before, and marks of different ids are never taken for each
other (`Search.counted_ids_stay_apart`).
-/

namespace MarkupQuery

namespace Marker.Source

def after (m : Source) : Nat → Source
  | 0 => m
  | n + 1 => m.next.2.after n

def upcoming (m : Source) : Nat → List String
  | 0 => []
  | n + 1 => m.next.1 :: m.next.2.upcoming n

theorem history_next (m : Source) : m.next.2.history = m.history ++ [m.next.1] := by
  simp [history, next]

theorem history_after (m : Source) (n : Nat) :
    (m.after n).history = m.history ++ m.upcoming n := by
  induction n generalizing m with
  | zero => simp [after, upcoming]
  | succ n ih => rw [after, ih, history_next, upcoming, List.append_assoc, List.singleton_append]

theorem length_upcoming (m : Source) (n : Nat) : (m.upcoming n).length = n := by
  induction n generalizing m with
  | zero => rfl
  | succ n ih => rw [upcoming, List.length_cons, ih]

/-! ### Counting -/

/-- A counting source that has come to `n`: it has handed out the numbers below `n`, in order, and
`n` is next. -/
structure HasCounted (m : Source) (n : Nat) : Prop where
  supply_eq : m.supply = .counted (.ofNat n)
  history_eq : m.history = (List.range n).map toString

theorem hasCounted_counted : counted.HasCounted 0 := ⟨rfl, rfl⟩

theorem toString_injective : Function.Injective (toString : Nat → String) := by
  intro a b h
  have hdigits : Nat.toDigits 10 a = Nat.toDigits 10 b := by
    simpa using congrArg String.toList h
  rw [← Css.Token.decimal_toDigits a, hdigits, Css.Token.decimal_toDigits]

namespace HasCounted

variable {m : Source} {n : Nat}

theorem next_id (h : m.HasCounted n) (hn : n < 2 ^ 64) : m.next.1 = toString n := by
  -- below the limit the counter is the number itself
  have hcounter : (UInt64.ofNat n).toNat = n := UInt64.toNat_ofNat_of_lt' hn
  simp only [Source.next, h.supply_eq, Supply.next, hcounter]

theorem next_not_mem_history (h : m.HasCounted n) (hn : n < 2 ^ 64) : m.next.1 ∉ m.history := by
  rw [h.next_id hn, h.history_eq, List.mem_map_of_injective toString_injective, List.mem_range]
  exact Nat.lt_irrefl n

theorem next (h : m.HasCounted n) (hn : n < 2 ^ 64) : m.next.2.HasCounted (n + 1) where
  supply_eq := by
    have hsucc : UInt64.ofNat n + 1 = UInt64.ofNat (n + 1) := (UInt64.ofNat_add n 1).symm
    simp only [Source.next, h.supply_eq, Supply.next, hsucc]
  history_eq := by
    rw [history_next, h.next_id hn, h.history_eq, List.range_succ, List.map_append,
      List.map_singleton]

theorem after (h : m.HasCounted n) (k : Nat) (hk : n + k ≤ 2 ^ 64) :
    (m.after k).HasCounted (n + k) := by
  induction k generalizing m n with
  | zero => exact h
  | succ k ih =>
      -- the first of the ids is one step, which leaves a source that has come to `n + 1`
      have hnext := ih (h.next (by omega)) (by omega)
      rwa [Nat.add_assoc, Nat.add_comm 1 k] at hnext

end HasCounted

theorem upcoming_counted {n : Nat} (hn : n ≤ 2 ^ 64) :
    counted.upcoming n = (List.range n).map toString := by
  have hcounted := hasCounted_counted.after n (by omega)
  rw [Nat.zero_add] at hcounted
  have hhistory : counted.history ++ counted.upcoming n = (List.range n).map toString := by
    rw [← history_after, hcounted.history_eq]
  exact hhistory

end Marker.Source

open Css

namespace Css

/-- The selector that tests for one class and for nothing else. -/
def SelectorList.ofClass (name : String) : SelectorList := [⟨⟨.any, [.hasClass name]⟩, []⟩]

theorem SelectorList.selects_ofClass_iff {name : String} {c : Cursor} :
    (SelectorList.ofClass name).selects c = true ↔ hasClass name c = true := by
  have hone : (SelectorList.ofClass name).selects c = Complex.selects ⟨.ofClass name, []⟩ c :=
    Bool.or_false _
  rw [hone, Complex.selects_eq, leftHolds, Bool.and_true, Bool.and_eq_true,
    Compound.holds_ofClass_iff]
  refine and_iff_right_of_imp fun h => ?_
  exact Compound.isElement_of_holds (Compound.holds_ofClass_iff.mpr h)

theorem SelectorList.ofText?_class {name : String} (h : IsPlain name) :
    SelectorList.ofText? ("." ++ name) = some (SelectorList.ofClass name) := by
  have htext : Complex.text ⟨.ofClass name, []⟩ = "." ++ name := Compound.textOfAll_ofClass h
  have hwritable : Complex.Writable ⟨.ofClass name, []⟩ :=
    ⟨Compound.writable_ofClass h.isName, by simp⟩
  rw [← htext]
  exact Complex.ofText?_text hwritable

end Css

namespace Search

/-- What a class has to do for elements to be marked with it. -/
structure MarksWith (mark : String) : Prop where
  /-- Behind a point it reads as the selector of that one class. -/
  ofText? : SelectorList.ofText? ("." ++ mark) = some (SelectorList.ofClass mark)
  /-- That selector selects the elements that have the class as a word in their attribute. -/
  selects_iff : ∀ c : Cursor, (SelectorList.ofClass mark).selects c = true ↔
    ∃ v, c.classes? = some v ∧ IsWord mark.toList v.toList
  /-- On a marked element the class is a word of the attribute: the last one, behind the words that
  are kept of the value before. -/
  isWord : ∀ c : Cursor, c.isElement = true → ∃ v, (c.mark mark).classes? = some v ∧
    IsWord mark.toList v.toList ∧ splitWords v.toList = keptWords c.classes? ++ [mark.toList]
  /-- So the selector selects every marked element. -/
  selects_mark : ∀ c : Cursor, c.isElement = true →
    (SelectorList.ofClass mark).selects (c.mark mark) = true

/-- Elements can be marked with any plain name. -/
theorem marksWith_of_isPlain {mark : String} (hm : IsPlain mark) : MarksWith mark where
  ofText? := SelectorList.ofText?_class hm
  selects_iff := by
    intro c
    have hne : mark ≠ "" := by
      rintro rfl
      exact hm.ne_nil rfl
    exact SelectorList.selects_ofClass_iff.trans (hasClass_iff.trans (and_iff_right hne))
  isWord := fun c hc => ⟨markedValue c.classes? mark, classes?_mark mark hc,
    isWord_markedValue hm c.classes?, splitWords_markedValue hm c.classes?⟩
  selects_mark := fun _ hc => SelectorList.selects_ofClass_iff.mpr (hasClass_mark hm hc)

theorem isPlain_classStem_append (n : Nat) : IsPlain (Marker.classStem ++ toString n) := by
  have hlist : (Marker.classStem ++ toString n).toList =
      "fob-scope-".toList ++ Nat.toDigits 10 n := by
    simp [Marker.classStem]
  rw [IsPlain, hlist]
  refine ⟨rfl, ?_⟩
  intro c hc
  rcases List.mem_append.mp hc with hc | hc
  · exact List.all_eq_true.mp (show "fob-scope-".toList.all isNameChar = true by decide) c hc
  · simp [isNameChar, Token.isDigit_of_mem_toDigits hc]

theorem allBlank_classStem_append (id : String) :
    Text.allBlank (Marker.classStem ++ id) = false := by
  rw [Text.allBlank, String.toList_append]
  rfl

/-- As long as the counter of a counting source does not run over, its ids are pairwise distinct,
and none has been handed out before it is taken. The class of each is one word of the classes of
every element that is marked with it, whatever they were before; behind a point it reads as the
selector of just this class, which selects the marked element. Marking an element for one id changes
nothing for the selector of another, which selects the element exactly if it did before. -/
theorem counted_ids_stay_apart (n : Nat) (hn : n < 2 ^ 64) :
    (Marker.Source.counted.upcoming n).length = n ∧
    (Marker.Source.counted.upcoming n).Nodup ∧
    (∀ k < n, (Marker.Source.counted.after k).next.1 ∉ (Marker.Source.counted.after k).history) ∧
    (∀ id ∈ Marker.Source.counted.upcoming n, MarksWith (Marker.classStem ++ id)) ∧
    ∀ (i j : Nat) (id other : String), i ≠ j →
      (Marker.Source.counted.upcoming n)[i]? = some id →
      (Marker.Source.counted.upcoming n)[j]? = some other →
      ∀ c : Cursor, c.isElement = true →
        ((SelectorList.ofClass (Marker.classStem ++ id)).selects
            (c.mark (Marker.classStem ++ other)) = true ↔
          (SelectorList.ofClass (Marker.classStem ++ id)).selects c = true) := by
  have hids := Marker.Source.upcoming_counted hn.le
  have hnodup : (Marker.Source.counted.upcoming n).Nodup := by
    rw [hids]
    exact List.nodup_range.map Marker.Source.toString_injective
  have hplain : ∀ id ∈ Marker.Source.counted.upcoming n, IsPlain (Marker.classStem ++ id) := by
    intro id hid
    rw [hids, List.mem_map] at hid
    obtain ⟨k, -, rfl⟩ := hid
    exact isPlain_classStem_append k
  refine ⟨Marker.Source.length_upcoming _ n, hnodup, ?_,
    fun id hid => marksWith_of_isPlain (hplain id hid), ?_⟩
  · intro k hk
    have hcounted := Marker.Source.hasCounted_counted.after k (by omega)
    exact hcounted.next_not_mem_history (by omega)
  · intro i j id other hij hi hj c hc
    -- equal classes would come from one id at two places of a list that holds it once
    have hne : Marker.classStem ++ id ≠ Marker.classStem ++ other := by
      intro h
      obtain rfl : id = other := by simpa [← String.toList_inj] using h
      have hlt := (List.getElem?_eq_some_iff.mp hi).1
      exact hij ((List.getElem?_inj hlt hnodup).mp (hi.trans hj.symm))
    have hmark := hplain other (List.mem_of_getElem? hj)
    rw [SelectorList.selects_ofClass_iff, SelectorList.selects_ofClass_iff,
      hasClass_mark_iff (allBlank_classStem_append id) hmark hc]
    exact or_iff_right hne

/-- A paragraph that carries the class of a counting source already, behind a no-break space. -/
def carrier : Cursor :=
  ⟨.leaf (.element ⟨.html, "p"⟩ [(.classes, "\u00A0 fob-scope-1")]), []⟩

/-- The third id marks a list and the paragraph. The selector of the first one does not select the
list, and the selector of the second one selects the paragraph as it did before. -/
theorem counted_ids_stay_apart_three :
    3 < 2 ^ 64 ∧ Marker.Source.counted.upcoming 3 = ["0", "1", "2"] ∧
      (Marker.Source.counted.upcoming 3).Nodup ∧
      SelectorList.ofText? ".fob-scope-2" = some (SelectorList.ofClass "fob-scope-2") ∧
      (SelectorList.ofClass "fob-scope-2").selects (itemList.mark "fob-scope-2") = true ∧
      ¬ (SelectorList.ofClass "fob-scope-0").selects (itemList.mark "fob-scope-2") = true ∧
      (SelectorList.ofClass "fob-scope-1").selects (carrier.mark "fob-scope-2") = true := by
  have hlimit : 3 < 2 ^ 64 := by decide
  have hids : Marker.Source.counted.upcoming 3 = ["0", "1", "2"] := by decide
  obtain ⟨-, hnodup, -, hmarks, hapart⟩ := counted_ids_stay_apart 3 hlimit
  have hthird := hmarks "2" (by rw [hids]; simp)
  have hfirst := hapart 0 2 "0" "2" (by decide) (by rw [hids]; rfl) (by rw [hids]; rfl) itemList rfl
  have hsecond := hapart 1 2 "1" "2" (by decide) (by rw [hids]; rfl) (by rw [hids]; rfl) carrier rfl
  refine ⟨hlimit, hids, hnodup, hthird.ofText?, hthird.selects_mark itemList rfl, ?_, ?_⟩
  · exact fun h => absurd (hfirst.mp h) (by decide)
  · exact hsecond.mpr (by decide)

end Search

end MarkupQuery
