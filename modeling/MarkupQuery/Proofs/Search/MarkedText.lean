import Mathlib
import MarkupQuery.Proofs.Search.Children

/-!
# The text of a marked search

A marked search writes every entry of its selector again, behind the class of the mark and `>`, and
reads the new text. The entries that are read are writable, so the text reads as the same entries in
the same order, each anchored behind the class, and it is just how the anchored entries are written
(`Search.markedText_eq`). Such a list selects what an entry hangs on an element of the class
(`Search.markedText_anchors`).
-/

namespace MarkupQuery

open Css

namespace Search

/-- The text that a marked search runs reads as just as many entries as the selector has, in the
same order: each is the entry itself with the class of the mark joined to its left end by `>`, and
nothing in it is changed. Writing these entries again gives the same text, and they select what an
entry of the selector hangs on an element that carries the class. -/
theorem markedText_anchors (css id : String) (entries : SelectorList)
    (hread : SelectorList.ofText? css = some entries) (hm : IsPlain (Marker.classStem ++ id)) :
    ∃ marked : SelectorList,
      SelectorList.ofText? (markedText (Marker.classStem ++ id) entries) = some marked ∧
      marked.length = entries.length ∧
      (∀ (i : Nat) (e : Css.Complex), entries[i]? = some e → marked[i]? = some
        ⟨e.subject, e.left ++ [(.child, ⟨.any, [.hasClass (Marker.classStem ++ id)]⟩)]⟩) ∧
      ", ".intercalate (marked.map Complex.text) = markedText (Marker.classStem ++ id) entries ∧
      ∀ d, marked.selects d = true ↔
        ∃ s, hasClass (Marker.classStem ++ id) s = true ∧ Hangs entries s d := by
  refine ⟨entries.map (·.anchor .child (.ofClass (Marker.classStem ++ id))),
    ofText?_markedText hread hm, List.length_map _, ?_, (markedText_eq hm entries).symm,
    fun d => selects_anchored_iff⟩
  intro i e he
  rw [List.getElem?_map, he]
  rfl

/-- A selector with a comment, a class and an id that need escapes, a bracket inside a value, and a
formula that the end of the text closes. -/
def guardedList : SelectorList :=
  [⟨⟨.any, [.hasClass "1", .not (.id "é")]⟩, []⟩,
    ⟨⟨.any, [.position ⟨false, false⟩ ⟨-1, 3⟩]⟩,
      [(.later, ⟨.named "a", [.attr ⟨false, "title", some ⟨.equals, "b, c]", .ignored⟩⟩]⟩)]⟩]

/-- The two entries are read again behind the class, with all that they hold; to the left of the
second one stands the link, and the class to the left of that. -/
theorem markedText_anchors_guarded :
    SelectorList.ofText? "/* , */.\\31:not(#é), a[title='b, c]'i]~ *:nth-child(-n+3" =
        some guardedList ∧
      ∃ marked : SelectorList,
        SelectorList.ofText?
            ".fob-scope-0 > .\\31 :not(#é), .fob-scope-0 > a[title=\"b, c]\" i] ~ :nth-child(-n+3)" =
          some marked ∧ marked.length = 2 ∧
        marked[1]? = some ⟨⟨.any, [.position ⟨false, false⟩ ⟨-1, 3⟩]⟩,
          [(.later, ⟨.named "a", [.attr ⟨false, "title", some ⟨.equals, "b, c]", .ignored⟩⟩]⟩),
            (.child, ⟨.any, [.hasClass "fob-scope-0"]⟩)]⟩ := by
  have hread : SelectorList.ofText? "/* , */.\\31:not(#é), a[title='b, c]'i]~ *:nth-child(-n+3" =
      some guardedList := by
    cbv
  have htext : markedText (Marker.classStem ++ "0") guardedList =
      ".fob-scope-0 > .\\31 :not(#é), .fob-scope-0 > a[title=\"b, c]\" i] ~ :nth-child(-n+3)" := by
    decide
  obtain ⟨marked, hmarked, hlength, hentries, -⟩ :=
    markedText_anchors _ "0" guardedList hread (by decide)
  rw [htext] at hmarked
  exact ⟨hread, marked, hmarked, hlength, hentries 1 _ rfl⟩

end Search

end MarkupQuery
