import Mathlib
import MarkupQuery.Document
import MarkupQuery.Proofs.Text.Capitals

/-!
# The declaration in front of a fragment

A fragment is refused exactly if it begins with `<!DOCTYPE`, after white space and in letters of
either case (`Document.parseFragment_refuses_iff`). That is what the test for it means, although it
looks for the word anywhere among the capitals of nine characters, and although some letters outside
ASCII have letters of the word among their capitals.
-/

namespace MarkupQuery.Document

/-- Whether a text begins with a declaration in letters of either case. -/
def BeginsWithDoctype (text : String) : Prop :=
  ∃ start rest, text.toList = start ++ rest ∧
    start.map Char.toLower = doctypeStart.map Char.toLower

theorem doctypeStart_eq : doctypeStart = ['<', '!', 'D', 'O', 'C', 'T', 'Y', 'P', 'E'] := rfl

/-- What the letters of the word are: capitals of ASCII that no letter outside ASCII has for its only
capital, as it is with `I` and `S`. -/
theorem letter_of_mem {x : Char} (h : x ∈ doctypeStart) :
    x.toNat < 128 ∧ x.toNat ≠ 0 ∧ x.toUpper = x ∧ x ≠ 'I' ∧ x ≠ 'S' := by
  simp only [doctypeStart_eq, List.mem_cons, List.not_mem_nil, or_false] at h
  rcases h with rfl | rfl | rfl | rfl | rfl | rfl | rfl | rfl | rfl <;> decide

theorem toUpper_eq_iff {c x : Char} (hx : x ∈ doctypeStart) :
    c.toUpper = x ↔ c.toLower = x.toLower := by
  obtain ⟨-, -, hupper, -⟩ := letter_of_mem hx
  constructor
  · rintro rfl
    exact (Char.toLower_toUpper_eq_toLower c).symm
  · intro h
    rw [← Char.toUpper_toLower_eq_toUpper, h, Char.toUpper_toLower_eq_toUpper, hupper]

/-! ### Capitals of letters outside ASCII -/

/-- None of the letters that become several has two letters of the word in front, or the first or the
last one of it anywhere. -/
theorem longCapitals_apart : ∀ p ∈ Text.longCapitals,
    2 ≤ p.2.length ∧ ¬ (p.2.take 2 ⊆ doctypeStart) ∧ '<' ∉ p.2 ∧ 'E' ∉ p.2 := by
  decide +kernel

/-- The capitals of the rows outside ASCII are outside ASCII, but for an `I` and an `S`. -/
theorem otherRows_apart : ∀ r ∈ Text.otherRows, 128 ≤ r.first + r.shift ∨
    r.first = r.last ∧ (r.first + r.shift = 'I'.toNat ∨ r.first + r.shift = 'S'.toNat) := by
  decide +kernel

theorem capital_not_mem {r : Text.CapitalRow} (hr : r ∈ Text.otherRows) {c : Char}
    (hc : r.holds c = true) : r.capital c ∉ doctypeStart := by
  intro hx
  obtain ⟨hlt, hzero, -, hi, hs⟩ := letter_of_mem hx
  have hbounds := Text.CapitalRow.bounds_of_holds hc
  rw [Text.CapitalRow.capital] at hlt hzero hi hs
  rcases otherRows_apart r hr with hfar | ⟨hone, hletter⟩
  · rw [Char.toNat_ofNat] at hlt hzero
    -- a code point that is none would give the character zero
    split at hlt
    · omega
    · next hvalid => exact hzero (if_neg hvalid)
  · have hcode : (c.toNat : Int) + r.shift = 'I'.toNat ∨ (c.toNat : Int) + r.shift = 'S'.toNat := by
      omega
    rcases hcode with hcode | hcode
    · exact hi (by rw [hcode]; rfl)
    · exact hs (by rw [hcode]; rfl)

/-- Outside ASCII, no character has a letter of the word for its only capital. -/
theorem upperChar_ne_of_not_ascii {c x : Char} (hc : 128 ≤ c.toNat) (hx : x ∈ doctypeStart) :
    Text.upperChar c ≠ [x] := by
  intro hupper
  rcases Text.upperChar_cases c with ⟨p, hp, hlong⟩ | ⟨r, hr, hholds, hrow⟩ | hself
  · obtain ⟨htwo, -⟩ := longCapitals_apart p hp
    rw [← hlong, hupper] at htwo
    exact absurd htwo (by simp)
  · rw [hupper, List.singleton_inj] at hrow
    subst hrow
    rcases List.mem_cons.mp hr with rfl | hr
    · -- the letters of the first row are in ASCII
      have hlast : c.toNat ≤ 0x7A := (Text.CapitalRow.bounds_of_holds hholds).2
      omega
    · exact capital_not_mem hr hholds hx
  · rw [hupper, List.singleton_inj] at hself
    subst hself
    exact absurd (letter_of_mem hx).1 (by omega)

theorem toLower_ne_of_not_ascii {c x : Char} (hc : 128 ≤ c.toNat) (hx : x ∈ doctypeStart) :
    c.toLower ≠ x.toLower := by
  intro h
  have hlower : ¬ c.isLower = true := by
    intro hsmall
    rw [Char.isLower, Bool.and_eq_true, decide_eq_true_eq, decide_eq_true_eq] at hsmall
    have hlast : c.toNat ≤ 0x7A := UInt32.le_iff_toNat_le.mp hsmall.2
    omega
  have hcx := (toUpper_eq_iff hx).mpr h
  rw [Char.toUpper_eq_of_not_isLower hlower] at hcx
  subst hcx
  exact absurd (letter_of_mem hx).1 (by omega)

theorem keepsApart_upperChar : Text.KeepsApart Text.upperChar doctypeStart where
  ne_nil c := by
    rcases Text.upperChar_cases c with ⟨p, hp, hlong⟩ | ⟨r, -, -, hrow⟩ | hself
    · obtain ⟨htwo, -⟩ := longCapitals_apart p hp
      rw [hlong]
      exact List.ne_nil_of_length_pos (by omega)
    · rw [hrow]
      exact List.cons_ne_nil _ _
    · rw [hself]
      exact List.cons_ne_nil _ _
  single c x hx := by
    rcases Nat.lt_or_ge c.toNat 128 with hc | hc
    · rw [Text.upperChar_of_ascii hc, List.singleton_inj, toUpper_eq_iff hx]
    · exact iff_of_false (upperChar_ne_of_not_ascii hc hx) (toLower_ne_of_not_ascii hc hx)
  several c y z zs hc := by
    rcases Text.upperChar_cases c with ⟨p, hp, hlong⟩ | ⟨r, -, -, hrow⟩ | hself
    · obtain ⟨-, hpair, hfirst, hlast⟩ := longCapitals_apart p hp
      rw [← hlong, hc] at hpair hfirst hlast
      rw [hc]
      refine ⟨fun hy hz => hpair (by simp [hy, hz]), fun x hx => ⟨?_, ?_⟩⟩
      · rintro ⟨⟩
        exact hfirst hx
      · rintro ⟨⟩
        exact hlast hx
    · rw [hrow] at hc
      cases hc
    · rw [hself] at hc
      cases hc

/-! ### The test -/

theorem hasDoctype_iff (markup : String) :
    hasDoctype markup = true ↔ BeginsWithDoctype (Text.trimStart markup) := by
  have hlength : ((markup.toList.dropWhile Text.isBlank).take doctypeStart.length).length ≤
      doctypeStart.length := List.length_take_le _ _
  rw [hasDoctype, Text.upper,
    keepsApart_upperChar.hasPart_flatMap_iff (List.cons_ne_nil _ _) hlength, BeginsWithDoctype,
    Text.trimStart, String.toList_ofList]
  constructor
  · intro h
    exact ⟨_, _, (List.take_append_drop _ _).symm, h⟩
  · rintro ⟨start, rest, hsplit, hstart⟩
    have hsame : start.length = doctypeStart.length := by
      simpa using congrArg List.length hstart
    rw [hsplit, ← hsame, List.take_left, hstart]

/-- A fragment is refused for its declaration exactly if it begins with one, after white space and in
letters of either case. Otherwise it is opened. What stands behind the first characters, as many as
the word has, makes no difference. -/
theorem parseFragment_refuses_iff :
    (∀ markup, parseFragment markup = .error (.badMarkup .doctypePresent) ↔
      BeginsWithDoctype (Text.trimStart markup)) ∧
    (∀ markup, ¬ BeginsWithDoctype (Text.trimStart markup) →
      parseFragment markup = .ok ⟨.fragment, Html.fragment markup⟩) ∧
    ∀ markup other, (Text.trimStart markup).toList.take 9 = (Text.trimStart other).toList.take 9 →
      (parseFragment markup = .error (.badMarkup .doctypePresent) ↔
        parseFragment other = .error (.badMarkup .doctypePresent)) := by
  have hrefuses (markup : String) : parseFragment markup = .error (.badMarkup .doctypePresent) ↔
      hasDoctype markup = true := by
    rw [parseFragment]
    split
    · next h => simp [h]
    · next h => simp [h]
  refine ⟨fun markup => (hrefuses markup).trans (hasDoctype_iff markup), fun markup hbegins => ?_,
    fun markup other hsame => ?_⟩
  · rw [parseFragment, if_neg (mt (hasDoctype_iff markup).mp hbegins)]
  · rw [Text.trimStart, Text.trimStart, String.toList_ofList, String.toList_ofList] at hsame
    have hlength : doctypeStart.length = 9 := rfl
    rw [hrefuses, hrefuses, hasDoctype, hasDoctype, hlength, hsame]

end MarkupQuery.Document
