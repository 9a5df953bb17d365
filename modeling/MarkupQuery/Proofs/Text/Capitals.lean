import Mathlib
import MarkupQuery.Text.Part
import MarkupQuery.Text.Upper

/-!
# Words among capitals

A word that is looked for among the capitals of a text can be found there although the text does not
spell it: a ligature gives two letters at once, and letters outside ASCII have capitals inside. How
little a word has to ask of a case mapping for this not to happen is `Text.KeepsApart`. Then a word
that is found in the capitals of a text no longer than itself is the text, letter by letter, but for
the case of ASCII letters (`Text.KeepsApart.hasPart_flatMap_iff`).
-/

namespace MarkupQuery.Text

/-- A case mapping keeps a word apart from everything that does not spell it. No character vanishes.
A single capital is a letter of the word only if it is the capital of that letter. Where there are
several, the first two are not both letters of the word, and none of them begins or ends it. -/
structure KeepsApart (capitals : Char → List Char) (word : List Char) : Prop where
  ne_nil (c : Char) : capitals c ≠ []
  single (c x : Char) (hx : x ∈ word) : capitals c = [x] ↔ c.toLower = x.toLower
  several (c y z : Char) (zs : List Char) (hc : capitals c = y :: z :: zs) :
    (y ∈ word → z ∉ word) ∧ ∀ x ∈ capitals c, word.head? ≠ some x ∧ word.getLast? ≠ some x

namespace KeepsApart

variable {capitals : Char → List Char} {word : List Char}

/-- Where the end of a word stands first among capitals, the text begins with it: each letter uses
up one character, since several capitals cannot go on with the next letter. -/
theorem exists_of_prefix (h : KeepsApart capitals word) {part cs : List Char} (hpart : part <:+ word)
    (hcs : part <+: cs.flatMap capitals) :
    ∃ start rest, cs = start ++ rest ∧ start.map Char.toLower = part.map Char.toLower := by
  induction part generalizing cs with
  | nil => exact ⟨[], cs, rfl, rfl⟩
  | cons x part ih =>
      have hx : x ∈ word := hpart.subset List.mem_cons_self
      have hrest : part <:+ word := (List.suffix_cons x part).trans hpart
      cases cs with
      | nil => simp at hcs
      | cons c cs =>
          rw [List.flatMap_cons] at hcs
          match hc : capitals c with
          | [] => exact absurd hc (h.ne_nil c)
          | [y] =>
              rw [hc, List.singleton_append, List.cons_prefix_cons] at hcs
              obtain ⟨rfl, hcs⟩ := hcs
              obtain ⟨start, rest, rfl, hstart⟩ := ih hrest hcs
              refine ⟨c :: start, rest, rfl, ?_⟩
              rw [List.map_cons, List.map_cons, hstart, (h.single c x hx).mp hc]
          | y :: z :: zs =>
              -- the first capital can only end the word, or the second one goes on with it
              rw [hc, List.cons_append, List.cons_prefix_cons] at hcs
              obtain ⟨rfl, hcs⟩ := hcs
              obtain ⟨hpair, hends⟩ := h.several c x z zs hc
              cases part with
              | nil =>
                  obtain ⟨before, rfl⟩ := hpart
                  exact absurd List.getLast?_concat (hends x (by simp [hc])).2
              | cons x' part =>
                  rw [List.cons_append, List.cons_prefix_cons] at hcs
                  obtain ⟨rfl, -⟩ := hcs
                  exact absurd (hrest.subset List.mem_cons_self) (hpair hx)

/-- Where a word stands anywhere among capitals, it stands in the text. -/
theorem exists_of_infix (h : KeepsApart capitals word) (hword : word ≠ [])
    {cs front behind : List Char} (hcs : cs.flatMap capitals = front ++ (word ++ behind)) :
    ∃ before start rest, cs = before ++ (start ++ rest) ∧
      start.map Char.toLower = word.map Char.toLower := by
  induction cs generalizing front with
  | nil => simp [hword] at hcs
  | cons c cs ih =>
      by_cases hfront : front = []
      · subst hfront
        obtain ⟨start, rest, hstart⟩ := h.exists_of_prefix (List.suffix_refl word)
          ⟨behind, hcs.symm⟩
        exact ⟨[], start, rest, hstart⟩
      · rw [List.flatMap_cons] at hcs
        rcases List.append_eq_append_iff.mp hcs with ⟨later, rfl, hlater⟩ | ⟨inside, hc, hinside⟩
        · obtain ⟨before, start, rest, rfl, hstart⟩ := ih hlater
          exact ⟨c :: before, start, rest, rfl, hstart⟩
        · cases inside with
          | nil =>
              have hlater : cs.flatMap capitals = [] ++ (word ++ behind) := hinside.symm
              obtain ⟨before, start, rest, rfl, hstart⟩ := ih hlater
              exact ⟨c :: before, start, rest, rfl, hstart⟩
          | cons x inside =>
              -- the word would begin behind the first of several capitals
              obtain ⟨y, front, rfl⟩ := List.exists_cons_of_ne_nil hfront
              obtain ⟨z, zs, hzs⟩ := List.exists_cons_of_ne_nil
                (List.append_ne_nil_of_right_ne_nil front (List.cons_ne_nil x inside))
              rw [List.cons_append, hzs] at hc
              have hx : x ∈ capitals c := by
                rw [hc, ← hzs]
                simp
              have hhead : word.head? = some x := by
                rw [← List.head?_append_of_ne_nil word hword, hinside]
                rfl
              exact absurd hhead ((h.several c y z zs hc).2 x hx).1

/-- The capitals of a text that spells letters of the word are these letters. -/
theorem flatMap_eq (h : KeepsApart capitals word) {part cs : List Char} (hpart : part ⊆ word)
    (hcs : cs.map Char.toLower = part.map Char.toLower) : cs.flatMap capitals = part := by
  induction part generalizing cs with
  | nil =>
      rw [List.map_nil, List.map_eq_nil_iff] at hcs
      rw [hcs, List.flatMap_nil]
  | cons x part ih =>
      obtain ⟨c, cs, rfl, hc, hcs⟩ := List.map_eq_cons_iff.mp hcs
      obtain ⟨hx, hpart⟩ := List.cons_subset.mp hpart
      rw [List.flatMap_cons, (h.single c x hx).mpr hc, ih hpart hcs, List.singleton_append]

/-- A word is found among the capitals of a text that is not longer exactly if the text is the word,
but for the case of ASCII letters. -/
theorem hasPart_flatMap_iff (h : KeepsApart capitals word) (hword : word ≠ []) {cs : List Char}
    (hlength : cs.length ≤ word.length) :
    hasPart word (cs.flatMap capitals) = true ↔
      cs.map Char.toLower = word.map Char.toLower := by
  rw [hasPart_iff]
  constructor
  · rintro ⟨front, behind, hfound⟩
    rw [List.append_assoc] at hfound
    obtain ⟨before, start, rest, rfl, hstart⟩ := h.exists_of_infix hword hfound
    have hall : start.length = word.length := by
      simpa using congrArg List.length hstart
    rw [List.length_append, List.length_append] at hlength
    have hbefore : before = [] := List.eq_nil_of_length_eq_zero (by omega)
    have hrest : rest = [] := List.eq_nil_of_length_eq_zero (by omega)
    rw [hbefore, hrest, List.nil_append, List.append_nil, hstart]
  · intro hcs
    exact ⟨[], [], by rw [h.flatMap_eq (List.Subset.refl word) hcs]; simp⟩

end KeepsApart

end MarkupQuery.Text
