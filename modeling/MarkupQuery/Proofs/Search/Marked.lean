import MarkupQuery.Proofs.Css.Hanging
import MarkupQuery.Proofs.Css.Name
import MarkupQuery.Search.Mark

/-!
# Marked scopes

A mark that is a plain name is one word of the marked element's classes, whatever stood in the
attribute before (`splitWords_markedValue`), and the element carries the classes that it carried
before and the mark (`hasClass_mark_iff`). All other nodes of the tree stay what they are, so if
none of them carried the class, the marked element is the only one that does
(`eq_mark_of_hasClass`).
-/

namespace MarkupQuery

namespace Css

/-! ### Words -/

theorem splitWords_ne_nil (cs : List Char) : splitWords cs ≠ [] := by
  cases cs with
  | nil => simp [splitWords]
  | cons c cs =>
      rw [splitWords]
      split
      · simp
      · split <;> simp

/-- At a white space the words in front and those behind are split off. -/
theorem splitWords_append {c : Char} (hc : isValueSpace c = true) (xs ys : List Char) :
    splitWords (xs ++ c :: ys) = splitWords xs ++ splitWords ys := by
  induction xs with
  | nil => simp [splitWords, hc]
  | cons x xs ih =>
      by_cases hx : isValueSpace x = true
      · simp [splitWords, hx, ih]
      · obtain ⟨w, ws, hw⟩ := List.exists_cons_of_ne_nil (splitWords_ne_nil xs)
        rw [List.cons_append, splitWords, if_neg hx, ih, splitWords, if_neg hx, hw]
        rfl

theorem splitWords_of_no_space {cs : List Char} (h : ∀ c ∈ cs, isValueSpace c = false) :
    splitWords cs = [cs] := by
  induction cs with
  | nil => rfl
  | cons c cs ih =>
      have hc : ¬ isValueSpace c = true := by simp [h c List.mem_cons_self]
      rw [splitWords, if_neg hc, ih fun d hd => h d (List.mem_cons_of_mem _ hd)]

/-- A word of an attribute value: it holds no white space, and reaches from a white space or the
beginning of the value to a white space or its end. -/
def IsWord (w cs : List Char) : Prop :=
  (∀ c ∈ w, isValueSpace c = false) ∧
    ∃ before after, cs = before ++ w ++ after ∧
      (∀ c ∈ before.getLast?, isValueSpace c = true) ∧ ∀ c ∈ after.head?, isValueSpace c = true

theorem IsWord.subset {w cs : List Char} (h : IsWord w cs) : w ⊆ cs := by
  obtain ⟨-, before, after, rfl, -, -⟩ := h
  intro c hc
  simp [hc]

theorem IsWord.behind_space {w ys : List Char} (h : IsWord w ys) {c : Char}
    (hc : isValueSpace c = true) (xs : List Char) : IsWord w (xs ++ c :: ys) := by
  obtain ⟨hw, before, after, rfl, hbefore, hafter⟩ := h
  refine ⟨hw, xs ++ c :: before, after, by simp, ?_, hafter⟩
  intro d hd
  rw [List.getLast?_append_cons, List.getLast?_cons] at hd
  cases hlast : before.getLast? with
  | none =>
      rw [hlast] at hd
      obtain rfl : c = d := by simpa using hd
      exact hc
  | some e =>
      rw [hlast] at hd
      obtain rfl : e = d := by simpa using hd
      exact hbefore e hlast

theorem no_space_or_first_space (cs : List Char) :
    (∀ c ∈ cs, isValueSpace c = false) ∨ ∃ xs c ys, cs = xs ++ c :: ys ∧
      (∀ x ∈ xs, isValueSpace x = false) ∧ isValueSpace c = true := by
  induction cs with
  | nil => exact Or.inl (by simp)
  | cons c cs ih =>
      cases hc : isValueSpace c with
      | true => exact Or.inr ⟨[], c, cs, rfl, by simp, hc⟩
      | false =>
          rcases ih with h | ⟨xs, d, ys, rfl, hxs, hd⟩
          · exact Or.inl (List.forall_mem_cons.mpr ⟨hc, h⟩)
          · exact Or.inr ⟨c :: xs, d, ys, rfl, List.forall_mem_cons.mpr ⟨hc, hxs⟩, hd⟩

theorem IsWord.of_mem_splitWords {w cs : List Char} (h : w ∈ splitWords cs) : IsWord w cs := by
  -- the first white space ends the first word, and the others are words of what is behind it
  rcases no_space_or_first_space cs with hcs | ⟨xs, c, ys, rfl, hxs, hc⟩
  · rw [splitWords_of_no_space hcs, List.mem_singleton] at h
    subst h
    exact ⟨hcs, [], [], by simp, by simp, by simp⟩
  · rw [splitWords_append hc, splitWords_of_no_space hxs, List.singleton_append,
      List.mem_cons] at h
    rcases h with rfl | h
    · exact ⟨hxs, [], c :: ys, by simp, by simp, by simpa using hc⟩
    · exact (IsWord.of_mem_splitWords h).behind_space hc xs
termination_by cs.length

/-- Splitting a value yields just its words. -/
theorem mem_splitWords_iff {w cs : List Char} : w ∈ splitWords cs ↔ IsWord w cs := by
  refine ⟨IsWord.of_mem_splitWords, ?_⟩
  rintro ⟨hw, before, after, rfl, hbefore, hafter⟩
  have hrest : w ∈ splitWords (w ++ after) := by
    cases after with
    | nil => simp [splitWords_of_no_space hw]
    | cons c after =>
        rw [splitWords_append (hafter c rfl), splitWords_of_no_space hw]
        exact List.mem_cons_self
  rcases before.eq_nil_or_concat with rfl | ⟨before, c, rfl⟩
  · exact hrest
  · have hc : isValueSpace c = true := hbefore c (by simp)
    rw [List.concat_eq_append, List.append_assoc, List.append_assoc, List.singleton_append,
      splitWords_append hc]
    exact List.mem_append_right _ hrest

/-- An element carries a class if the class is a word of its `class` attribute. -/
theorem hasClass_iff {name : String} {c : Cursor} :
    hasClass name c = true ↔
      name ≠ "" ∧ ∃ v, c.classes? = some v ∧ IsWord name.toList v.toList := by
  have hclasses : c.label.attribute? "class" = c.classes? := rfl
  simp [hasClass, hclasses, Option.any_eq_true, mem_splitWords_iff]

end Css

open Css

/-- The words that a mark is put behind: those of the value before, unless it is given up. -/
def keptWords : Option String → List (List Char)
  | some classes => if Text.allBlank classes then [] else splitWords classes.toList
  | none => []

/-- A plain mark comes behind the words of the value that it is put into, as a word of its own. -/
theorem splitWords_markedValue {m : String} (hm : IsPlain m) (previous? : Option String) :
    splitWords (markedValue previous? m).toList = keptWords previous? ++ [m.toList] := by
  have hword : splitWords m.toList = [m.toList] :=
    splitWords_of_no_space fun c hc => isValueSpace_of_isNameChar (hm.2 c hc)
  cases previous? with
  | none => exact hword
  | some classes =>
      rw [markedValue, keptWords]
      split
      · exact hword
      · have hspace : isValueSpace ' ' = true := rfl
        simp [splitWords_append hspace, hword]

theorem isWord_markedValue {m : String} (hm : IsPlain m) (previous? : Option String) :
    IsWord m.toList (markedValue previous? m).toList := by
  rw [← mem_splitWords_iff, splitWords_markedValue hm]
  simp

theorem mem_keptWords_iff {w : List Char} (hw : w.all Text.isBlank = false)
    (previous? : Option String) :
    w ∈ keptWords previous? ↔ ∃ v, previous? = some v ∧ IsWord w v.toList := by
  cases previous? with
  | none => simp [keptWords]
  | some classes =>
      -- a value that is given up holds blanks only, and so do its words
      have hnot (hblank : Text.allBlank classes = true) : ¬ IsWord w classes.toList := by
        intro hword
        have hall : w.all Text.isBlank = true := List.all_eq_true.mpr fun c hc =>
          List.all_eq_true.mp hblank c (hword.subset hc)
        rw [hw] at hall
        cases hall
      rw [keptWords]
      split
      · rename_i hblank
        simp [hnot hblank]
      · simp [mem_splitWords_iff]

theorem classes?_mark (m : String) {c : Cursor} (hc : c.isElement = true) :
    (c.mark m).classes? = some (markedValue c.classes? m) := by
  obtain ⟨⟨l, cs⟩, above⟩ := c
  cases l with
  | element n as => exact Attributes.get?_set_self _ _ _
  | _ => cases hc

/-- A marked element carries its mark. -/
theorem hasClass_mark {m : String} (hm : IsPlain m) {c : Cursor} (hc : c.isElement = true) :
    hasClass m (c.mark m) = true := by
  refine hasClass_iff.mpr ⟨?_, _, classes?_mark m hc, isWord_markedValue hm c.classes?⟩
  rintro rfl
  exact hm.ne_nil rfl

/-- A mark adds no class but itself, and takes none away that is more than blanks. -/
theorem hasClass_mark_iff {name m : String} (hname : Text.allBlank name = false) (hm : IsPlain m)
    {c : Cursor} (hc : c.isElement = true) :
    hasClass name (c.mark m) = true ↔ name = m ∨ hasClass name c = true := by
  have hne : name ≠ "" := by
    rintro rfl
    cases hname
  rw [hasClass_iff, hasClass_iff, classes?_mark m hc]
  simp only [Option.some.injEq, exists_eq_left', ← mem_splitWords_iff, splitWords_markedValue hm,
    List.mem_append, List.mem_singleton, mem_keptWords_iff hname, String.toList_inj]
  simp [hne, or_comm, mem_splitWords_iff]

namespace Cursor

/-! ### The rest of the tree -/

theorem isElement_mark (m : String) (c : Cursor) : (c.mark m).isElement = c.isElement := by
  obtain ⟨⟨l, cs⟩, above⟩ := c
  cases l <;> rfl

theorem children_focus_mark (m : String) (c : Cursor) :
    (c.mark m).focus.children = c.focus.children := by
  obtain ⟨⟨l, cs⟩, above⟩ := c
  rfl

theorem path_mark (m : String) (c : Cursor) : (c.mark m).path = c.path := rfl

def labelAt? (t : Tree) (p : Path) : Option Node := (t.subtree? p).map Tree.label

theorem labelAt?_path (c : Cursor) : labelAt? c.top c.path = some c.label := by
  have h := descend?_focus ⟨c.top, []⟩ c.path
  have h' : descend? ⟨c.top, []⟩ c.path = some c := cursor?_path c
  rw [h'] at h
  simp [labelAt?, ← h, label]

theorem exists_of_labelAt? {t : Tree} {p : Path} {l : Node} (h : labelAt? t p = some l) :
    ∃ c, t.cursor? p = some c ∧ c.label = l := by
  obtain ⟨u, hu, hl⟩ := Option.map_eq_some_iff.mp h
  have hf := descend?_focus ⟨t, []⟩ p
  rw [show (⟨t, []⟩ : Cursor).focus = t from rfl, hu] at hf
  obtain ⟨c, hc, rfl⟩ := Option.map_eq_some_iff.mp hf
  exact ⟨c, hc, hl⟩

/-- Lists that differ in one place agree in all others. -/
theorem getElem?_middle_of_ne {α : Type} {i : Nat} {xs : List α} (h : i ≠ xs.length) (t t' : α)
    (ys : List α) : (xs ++ t :: ys)[i]? = (xs ++ t' :: ys)[i]? := by
  have hset : (xs ++ t :: ys).set xs.length t' = xs ++ t' :: ys := by simp
  rw [← hset, List.getElem?_set_ne h.symm]

/-- Two trees that differ at most in the label at one path. -/
def SameBut (p : Path) (t t' : Tree) : Prop := ∀ q ≠ p, labelAt? t q = labelAt? t' q

theorem SameBut.rebuild {t t' : Tree} {p : Path} (h : SameBut p t t') (above : List Crumb) :
    SameBut (path ⟨t, above⟩ ++ p) (Cursor.rebuild t above) (Cursor.rebuild t' above) := by
  induction above generalizing t t' p with
  | nil => exact h
  | cons crumb above ih =>
      obtain ⟨l, before, after⟩ := crumb
      -- one level up, the two trees are the children at the same index of the same node
      have hup : SameBut (before.length :: p) (.node l (before.reverse ++ t :: after))
          (.node l (before.reverse ++ t' :: after)) := by
        intro q hq
        cases q with
        | nil => rfl
        | cons i q =>
            rw [labelAt?, labelAt?, Tree.subtree?, Tree.subtree?]
            simp only [Tree.children]
            by_cases hi : i = before.length
            · subst hi
              have hqp : q ≠ p := fun e => hq (by rw [e])
              simpa [labelAt?] using h q hqp
            · rw [getElem?_middle_of_ne (by simpa using hi) t t' after]
      have := ih hup
      simpa [path, List.append_assoc, Cursor.rebuild] using this

/-- A mark changes no other label of the tree. -/
theorem sameBut_mark (m : String) (c : Cursor) : SameBut c.path c.top (c.mark m).top := by
  have hfocus : SameBut [] c.focus (c.mark m).focus := by
    intro q hq
    obtain ⟨⟨l, cs⟩, above⟩ := c
    cases q with
    | nil => exact absurd rfl hq
    | cons i q => rfl
  have := hfocus.rebuild c.above
  rwa [List.append_nil] at this

end Cursor

/-- A tree without any element of a class. -/
def Tree.FreeOf (m : String) (t : Tree) : Prop :=
  ∀ c : Cursor, c.top = t → hasClass m c = false

theorem Tree.freeOf_iff {m : String} {t : Tree} :
    t.FreeOf m ↔ ∀ c ∈ t.cursors [], hasClass m c = false := by
  constructor
  · intro h c hc
    exact h c (Cursor.top_of_mem_cursors hc)
  · rintro h c rfl
    exact h c c.mem_cursors_top

instance (m : String) (t : Tree) : Decidable (t.FreeOf m) := decidable_of_iff' _ Tree.freeOf_iff

/-- In a tree that was free of the class, only the marked element carries it. -/
theorem eq_mark_of_hasClass {m : String} {c d : Cursor} (hfree : c.top.FreeOf m)
    (hd : d.top = (c.mark m).top) (hclass : hasClass m d = true) : d = c.mark m := by
  by_cases hp : d.path = c.path
  · exact Cursor.eq_of_path_eq hd (by rw [hp, Cursor.path_mark])
  · have hl := c.sameBut_mark m d.path hp
    rw [← hd, Cursor.labelAt?_path] at hl
    -- at any other path the label is one of the tree without the mark
    obtain ⟨e, he, hlabel⟩ := Cursor.exists_of_labelAt? hl
    have hnone := hfree e (Cursor.top_of_cursor? he)
    rw [hasClass, hlabel] at hnone
    rw [hasClass, hnone] at hclass
    cases hclass

end MarkupQuery
