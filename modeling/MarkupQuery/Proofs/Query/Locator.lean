import Mathlib.Data.List.TakeWhile
import MarkupQuery.Session

/-!
# How locators are written

A locator can be read unless a closing bracket ends it and no bracket opens in it
(`Locator.parse?_eq_none_iff`). What is read from a text stands in the text, and nothing else stands
there but the suffix (`Locator.HasSuffix`) and the sign with the blanks behind it
(`Locator.HasSign`): so a text reads as a locator exactly if it is written in this way
(`Locator.parse?_eq_some_iff`). The blanks behind the sign are all that reading forgets
(`Locator.parse?_loses_nothing`).
-/

namespace MarkupQuery.Locator

/-! ### Texts that cannot be read -/

theorem splitSuffix?_eq_none_iff {cs : List Char} :
    splitSuffix? cs = none ↔ cs.head? = some ']' ∧ '[' ∉ cs := by
  unfold splitSuffix?
  split
  · simp
  · rename_i rest
    have hopen : rest.dropWhile (· ≠ '[') = [] ↔ '[' ∉ rest := by
      rw [List.dropWhile_eq_nil_iff]
      simp only [decide_eq_true_eq]
      exact ⟨fun h hmem => h _ hmem rfl, fun h c hc e => h (e ▸ hc)⟩
    split
    · rename_i hnil
      simpa using hopen.mp hnil
    · rename_i c before hcons
      have hmem : '[' ∈ rest := by
        by_contra hnot
        rw [hopen.mpr hnot] at hcons
        cases hcons
      simp [hmem]
  · rename_i hbracket
    refine iff_of_false (by simp) ?_
    rintro ⟨hhead, -⟩
    obtain ⟨rest, rfl⟩ := List.head?_eq_some_iff.mp hhead
    exact hbracket rest rfl

/-- Whether a text is no locator: a closing bracket ends it and no bracket opens in it. -/
def IsUnopened (raw : String) : Prop := raw.toList.getLast? = some ']' ∧ '[' ∉ raw.toList

instance (raw : String) : Decidable (IsUnopened raw) := inferInstanceAs (Decidable (_ ∧ _))

theorem parse?_eq_none_iff {raw : String} : parse? raw = none ↔ IsUnopened raw := by
  rw [parse?, Option.map_eq_none_iff, splitSuffix?_eq_none_iff, List.head?_reverse,
    List.mem_reverse, IsUnopened]

/-! ### Suffixes -/

/-- A text is made of a front and of the suffix that an extraction is told by. Where there is no
extraction, the text ends in nothing that could be taken for a suffix. -/
inductive HasSuffix : String → String → Option Extraction → Prop where
  | text (front : String) : HasSuffix (front ++ "::text") front (some .text)
  | name (front : String) {name : String} (hname : '[' ∉ name.toList) :
      HasSuffix (front ++ "[" ++ name ++ "]") front (some (.attribute name))
  | none {raw : String} (htext : ∀ front, raw ≠ front ++ "::text")
      (hbracket : ∀ front, raw ≠ front ++ "]") : HasSuffix raw raw none

theorem eq_append_of_reverse {raw t : String} {rest : List Char}
    (h : raw.toList.reverse = t.toList.reverse ++ rest) :
    raw = String.ofList rest.reverse ++ t := by
  rw [← String.toList_inj, String.toList_append, String.toList_ofList, ← List.reverse_inj, h,
    List.reverse_append, List.reverse_reverse]

theorem splitSuffix?_attribute {name before : List Char} (hname : '[' ∉ name) :
    splitSuffix? (']' :: (name ++ '[' :: before)) =
      some (before, some (.attribute (String.ofList name.reverse))) := by
  have hall : ∀ c ∈ name, decide (c ≠ '[') = true := by
    intro c hc
    rw [decide_eq_true_iff]
    rintro rfl
    exact hname hc
  have hdrop : (name ++ '[' :: before).dropWhile (· ≠ '[') = '[' :: before := by
    rw [List.dropWhile_append_of_pos hall]
    rfl
  have htake : (name ++ '[' :: before).takeWhile (· ≠ '[') = name := by
    rw [List.takeWhile_append_of_pos hall]
    exact List.append_nil name
  rw [splitSuffix?, hdrop, htake]

theorem splitSuffix?_of_hasSuffix {raw front : String} {e : Option Extraction}
    (h : HasSuffix raw front e) :
    splitSuffix? raw.toList.reverse = some (front.toList.reverse, e) := by
  cases h with
  | text =>
      rw [String.toList_append, List.reverse_append]
      rfl
  | @name _ name hname =>
      have hsplit : splitSuffix? (']' :: (name.toList.reverse ++ '[' :: front.toList.reverse)) = _ :=
        splitSuffix?_attribute (mt List.mem_reverse.mp hname)
      simpa using hsplit
  | none htext hbracket =>
      apply splitSuffix?.eq_3
      · intro rest h
        exact htext _ (eq_append_of_reverse (t := "::text") h)
      · intro rest h
        exact hbracket _ (eq_append_of_reverse (t := "]") h)

theorem exists_hasSuffix {raw : String} (h : ¬ IsUnopened raw) :
    ∃ front e, HasSuffix raw front e := by
  by_cases htext : ∃ front, raw = front ++ "::text"
  · obtain ⟨front, rfl⟩ := htext
    exact ⟨front, _, .text front⟩
  by_cases hbracket : ∃ inner, raw = inner ++ "]"
  · obtain ⟨inner, rfl⟩ := hbracket
    have hopen : '[' ∈ inner.toList.reverse := by
      by_contra hopen
      apply h
      simpa [IsUnopened] using hopen
    -- the name runs from the last bracket that opens to the end
    obtain ⟨name, before, hinner, hname⟩ := List.eq_append_cons_of_mem hopen
    have hraw : inner ++ "]" =
        String.ofList before.reverse ++ "[" ++ String.ofList name.reverse ++ "]" := by
      rw [← String.toList_inj, ← List.reverse_inj]
      simp [hinner]
    rw [hraw]
    exact ⟨_, _, .name _ (by simpa using hname)⟩
  · exact ⟨raw, _, .none (not_exists.mp htext) (not_exists.mp hbracket)⟩

theorem hasSuffix_iff {raw front : String} {e : Option Extraction} :
    HasSuffix raw front e ↔ splitSuffix? raw.toList.reverse = some (front.toList.reverse, e) := by
  refine ⟨splitSuffix?_of_hasSuffix, fun h => ?_⟩
  have hopened : ¬ IsUnopened raw := by
    intro hunopened
    rw [IsUnopened, ← List.head?_reverse, ← List.mem_reverse, ← splitSuffix?_eq_none_iff] at hunopened
    rw [hunopened] at h
    cases h
  obtain ⟨front', e', h'⟩ := exists_hasSuffix hopened
  rw [splitSuffix?_of_hasSuffix h'] at h
  simp only [Option.some.injEq, Prod.mk.injEq, List.reverse_inj, String.toList_inj] at h
  obtain ⟨rfl, rfl⟩ := h
  exact h'

theorem HasSuffix.eq_append {raw front : String} {e : Option Extraction}
    (h : HasSuffix raw front e) : raw = front ++ (e.map Extraction.suffix).getD "" := by
  cases h with
  | text => rfl
  | name => simp [Extraction.suffix, String.append_assoc]
  | none => simp

/-! ### Signs -/

/-- A text is made of a CSS selector and of what stands in front of it: the sign with blanks behind
it, or nothing. -/
inductive HasSign : String → String → Bool → Prop where
  | child {blanks css : String} (hblanks : Text.allBlank blanks = true)
      (hcss : ∀ c ∈ css.toList.head?, Text.isBlank c = false) :
      HasSign (">" ++ blanks ++ css) css true
  | plain {css : String} (hcss : ∀ c ∈ css.toList.head?, c ≠ '>') : HasSign css css false

theorem splitSign_of_hasSign {front css : String} {childScoped : Bool}
    (h : HasSign front css childScoped) : splitSign front.toList = (css.toList, childScoped) := by
  cases h with
  | @child blanks css hblanks hcss =>
      have hall : ∀ c ∈ blanks.toList, Text.isBlank c = true := List.all_eq_true.mp hblanks
      have hfront : (">" ++ blanks ++ css).toList = '>' :: (blanks.toList ++ css.toList) := by
        simp
      rw [hfront, splitSign, List.dropWhile_append_of_pos hall]
      cases hlist : css.toList with
      | nil => rfl
      | cons c cs =>
          rw [List.dropWhile_cons_of_neg]
          simpa [hlist] using hcss
  | plain hcss =>
      apply splitSign.eq_2
      intro rest h
      exact hcss '>' (by rw [h]; rfl) rfl

theorem hasSign_trimStart {blanks : String} (hblanks : Text.allBlank blanks = true)
    (front : String) : HasSign (">" ++ blanks ++ front) (Text.trimStart front) true := by
  have hfront : ">" ++ blanks ++ front =
      ">" ++ (blanks ++ String.ofList (front.toList.takeWhile Text.isBlank)) ++
        Text.trimStart front := by
    rw [← String.toList_inj]
    simp [Text.trimStart]
  rw [hfront]
  apply HasSign.child
  · rw [Text.allBlank, String.toList_append, List.all_append, String.toList_ofList,
      List.all_takeWhile, Bool.and_true]
    exact hblanks
  · intro c hc
    rw [Text.trimStart, String.toList_ofList, Option.mem_def] at hc
    have hnot := List.head?_dropWhile_not Text.isBlank front.toList
    rw [hc] at hnot
    exact hnot

theorem exists_hasSign (front : String) : ∃ css childScoped, HasSign front css childScoped := by
  by_cases hsign : ∃ rest, front.toList = '>' :: rest
  · obtain ⟨rest, hrest⟩ := hsign
    have hfront : front = ">" ++ "" ++ String.ofList rest := by
      rw [← String.toList_inj, hrest]
      simp
    rw [hfront]
    exact ⟨_, true, hasSign_trimStart rfl _⟩
  · refine ⟨front, false, .plain ?_⟩
    rintro c hc rfl
    exact hsign (List.head?_eq_some_iff.mp hc)

theorem hasSign_iff {front css : String} {childScoped : Bool} :
    HasSign front css childScoped ↔ splitSign front.toList = (css.toList, childScoped) := by
  refine ⟨splitSign_of_hasSign, fun h => ?_⟩
  obtain ⟨css', childScoped', h'⟩ := exists_hasSign front
  rw [splitSign_of_hasSign h'] at h
  simp only [Prod.mk.injEq, String.toList_inj] at h
  obtain ⟨rfl, rfl⟩ := h
  exact h'

/-! ### Whole locators -/

variable {raw : String} {l : Locator}

/-- A text reads as a locator exactly if it is written with the sign and the suffix of the
locator. -/
theorem parse?_eq_some_iff : parse? raw = some l ↔
    ∃ front, HasSuffix raw front l.extraction? ∧ HasSign front l.css l.childScoped := by
  simp only [hasSuffix_iff, hasSign_iff]
  obtain ⟨css, extraction?, childScoped⟩ := l
  rw [parse?, Option.map_eq_some_iff]
  constructor
  · rintro ⟨⟨before, e⟩, hsplit, h⟩
    simp only [Locator.mk.injEq] at h
    obtain ⟨rfl, rfl, rfl⟩ := h
    exact ⟨String.ofList before.reverse, by simpa using hsplit, by simp⟩
  · rintro ⟨front, hsplit, hsign⟩
    refine ⟨_, hsplit, ?_⟩
    simp [hsign]

/-- A suffix that is put behind a locator without one is read as its extraction. -/
theorem parse?_append_suffix (h : parse? raw = some l) (hnone : l.extraction? = none)
    {e : Extraction}
    (hname : ∀ name, e = .attribute name → '[' ∉ name.toList) :
    parse? (raw ++ e.suffix) = some { l with extraction? := some e } := by
  obtain ⟨front, hsuffix, hsign⟩ := parse?_eq_some_iff.mp h
  rw [hnone] at hsuffix
  cases hsuffix with
  | none _ _ =>
      refine parse?_eq_some_iff.mpr ⟨raw, ?_, hsign⟩
      rcases e with _ | name
      · exact .text raw
      · rw [Extraction.suffix, ← String.append_assoc, ← String.append_assoc]
        exact .name raw (hname name rfl)

/-! ### Blanks behind the sign -/

/-- A text with a sign ends in what the text behind the sign ends in. -/
theorem endsIn_sign_append_iff {blanks rest t : String} (hblanks : Text.allBlank blanks = true)
    (ht : (t.toList.all fun c => c != '>' && !Text.isBlank c) = true) :
    (∃ front, ">" ++ blanks ++ rest = front ++ t) ↔ ∃ front, rest = front ++ t := by
  constructor
  · rintro ⟨front, hfront⟩
    rw [← String.toList_inj, String.toList_append, String.toList_append (s := front),
      List.append_eq_append_iff] at hfront
    rcases hfront with ⟨more, -, hrest⟩ | ⟨more, hsign, hmore⟩
    · exact ⟨String.ofList more, by rw [← String.toList_inj]; simpa using hrest⟩
    · cases more with
      | nil => exact ⟨"", by rw [← String.toList_inj]; simpa using hmore.symm⟩
      | cons c more =>
          -- the end would reach into the sign and the blanks
          have hmem : c ∈ t.toList := by simp [hmore]
          obtain ⟨hne, hnot⟩ : c ≠ '>' ∧ Text.isBlank c = false := by
            simpa using List.all_eq_true.mp ht c hmem
          have hc : c ∈ (">" ++ blanks).toList := by simp [hsign]
          rw [String.toList_append, List.mem_append] at hc
          rcases hc with hc | hc
          · exact absurd (by simpa using hc) hne
          · rw [List.all_eq_true.mp hblanks c hc] at hnot
            cases hnot
  · rintro ⟨front, rfl⟩
    exact ⟨">" ++ blanks ++ front, by simp only [String.append_assoc]⟩

theorem HasSuffix.sign_append {blanks front : String} {e : Option Extraction}
    (hblanks : Text.allBlank blanks = true) (h : HasSuffix raw front e) :
    HasSuffix (">" ++ blanks ++ raw) (">" ++ blanks ++ front) e := by
  cases h with
  | text =>
      rw [← String.append_assoc]
      exact .text _
  | @name _ name hname =>
      have hassoc : ">" ++ blanks ++ (front ++ "[" ++ name ++ "]") =
          ">" ++ blanks ++ front ++ "[" ++ name ++ "]" := by
        simp only [String.append_assoc]
      rw [hassoc]
      exact .name _ hname
  | none htext hbracket =>
      apply HasSuffix.none
      · apply not_exists.mp
        rw [endsIn_sign_append_iff hblanks (by decide), not_exists]
        exact htext
      · apply not_exists.mp
        rw [endsIn_sign_append_iff hblanks (by decide), not_exists]
        exact hbracket

theorem isUnopened_sign_append_iff {blanks : String} (hblanks : Text.allBlank blanks = true) :
    IsUnopened (">" ++ blanks ++ raw) ↔ IsUnopened raw := by
  have hends (s : String) : s.toList.getLast? = some ']' ↔ ∃ front, s = front ++ "]" := by
    rw [List.getLast?_eq_some_iff]
    constructor
    · rintro ⟨cs, hcs⟩
      exact ⟨String.ofList cs, by rw [← String.toList_inj]; simpa using hcs⟩
    · rintro ⟨front, rfl⟩
      exact ⟨front.toList, by simp⟩
  have hopen : '[' ∉ blanks.toList := fun hmem => by
    have hnot := List.all_eq_true.mp hblanks '[' hmem
    cases hnot
  rw [IsUnopened, IsUnopened, hends, hends, endsIn_sign_append_iff hblanks (by decide)]
  simp [hopen]

theorem parse?_sign_append {blanks front : String} {e : Option Extraction}
    (hblanks : Text.allBlank blanks = true) (h : HasSuffix raw front e) :
    parse? (">" ++ blanks ++ raw) = some ⟨Text.trimStart front, e, true⟩ := by
  rw [parse?_eq_some_iff]
  exact ⟨">" ++ blanks ++ front, h.sign_append hblanks, hasSign_trimStart hblanks front⟩

/-- Whether two texts differ in nothing but the blanks behind a sign at their beginning. -/
def SameButBlanks (raw raw' : String) : Prop :=
  raw = raw' ∨ ∃ blanks blanks' rest, Text.allBlank blanks = true ∧ Text.allBlank blanks' = true ∧
    raw = ">" ++ blanks ++ rest ∧ raw' = ">" ++ blanks' ++ rest

theorem parse?_eq_of_sameButBlanks {raw' : String} (h : SameButBlanks raw raw') :
    parse? raw = parse? raw' := by
  rcases h with rfl | ⟨blanks, blanks', rest, hblanks, hblanks', rfl, rfl⟩
  · rfl
  · by_cases hunopened : IsUnopened rest
    · rw [parse?_eq_none_iff.mpr ((isUnopened_sign_append_iff hblanks).mpr hunopened),
        parse?_eq_none_iff.mpr ((isUnopened_sign_append_iff hblanks').mpr hunopened)]
    · obtain ⟨front, e, hsuffix⟩ := exists_hasSuffix hunopened
      rw [parse?_sign_append hblanks hsuffix, parse?_sign_append hblanks' hsuffix]

theorem sameButBlanks_of_parse? {raw' : String} (h : parse? raw = some l)
    (h' : parse? raw' = some l) : SameButBlanks raw raw' := by
  obtain ⟨front, hsuffix, hsign⟩ := parse?_eq_some_iff.mp h
  obtain ⟨front', hsuffix', hsign'⟩ := parse?_eq_some_iff.mp h'
  rw [hsuffix.eq_append, hsuffix'.eq_append]
  generalize l.css = css at hsign hsign'
  generalize l.childScoped = childScoped at hsign hsign'
  cases hsign with
  | plain _ =>
      cases hsign' with
      | plain _ => exact .inl rfl
  | @child blanks _ hblanks _ =>
      cases hsign' with
      | @child blanks' _ hblanks' _ =>
          refine .inr ⟨blanks, blanks', css ++ (l.extraction?.map Extraction.suffix).getD "",
            hblanks, hblanks', ?_, ?_⟩
          · simp only [String.append_assoc]
          · simp only [String.append_assoc]

theorem sameButBlanks_text (h : parse? raw = some l) : SameButBlanks l.text raw := by
  obtain ⟨front, hsuffix, hsign⟩ := parse?_eq_some_iff.mp h
  rw [hsuffix.eq_append, text]
  generalize l.css = css at hsign
  generalize l.childScoped = childScoped at hsign
  cases hsign with
  | plain _ => exact .inl (by simp)
  | @child blanks _ hblanks _ =>
      refine .inr ⟨" ", blanks, css ++ (l.extraction?.map Extraction.suffix).getD "", rfl,
        hblanks, ?_, ?_⟩
      · simp only [String.append_assoc]; rfl
      · simp only [String.append_assoc]

/-- Reading a locator loses nothing but blanks. A text cannot be read exactly if a closing bracket
ends it and no bracket opens in it, and a query then fails with the text as it was written. Any other
text reads as one locator, the one whose sign, CSS selector and suffix it is made of, in this order:
the sign is `>` with blanks behind it, and the CSS selector does not begin with a blank then, nor
with `>` where there is no sign; no bracket opens in the name of an attribute; and where nothing is
extracted the text ends neither in `::text` nor in a closing bracket.

So a locator that was read is read again from the text that it is written as; and two texts read as
the same locator exactly if both can be read and they differ in nothing but the blanks behind a sign
at their beginning. -/
theorem parse?_loses_nothing :
    (∀ raw, parse? raw = none ↔ IsUnopened raw) ∧
    (∀ (s : Session) (source : Nat) (scope : Location) (q : Query) (want : Want),
      IsUnopened q.locator →
        s.resolve source scope q want = (s, .error (.badSelector q.locator))) ∧
    (∀ raw l, parse? raw = some l ↔
      ∃ front, HasSuffix raw front l.extraction? ∧ HasSign front l.css l.childScoped) ∧
    (∀ raw l, parse? raw = some l → parse? l.text = some l) ∧
    ∀ raw raw', (∃ l, parse? raw = some l ∧ parse? raw' = some l) ↔
      ¬ IsUnopened raw ∧ ¬ IsUnopened raw' ∧ SameButBlanks raw raw' := by
  refine ⟨?_, ?_, ?_, ?_, ?_⟩
  · intro raw
    exact parse?_eq_none_iff
  · intro s source scope q want hunopened
    rw [Session.resolve, parse?_eq_none_iff.mpr hunopened]
  · intro raw l
    exact parse?_eq_some_iff
  · intro raw l h
    rw [parse?_eq_of_sameButBlanks (sameButBlanks_text h)]
    exact h
  · intro raw raw'
    rw [← parse?_eq_none_iff, ← parse?_eq_none_iff]
    constructor
    · rintro ⟨l, h, h'⟩
      exact ⟨by simp [h], by simp [h'], sameButBlanks_of_parse? h h'⟩
    · rintro ⟨hraw, -, hsame⟩
      obtain ⟨l, h⟩ := Option.ne_none_iff_exists'.mp hraw
      exact ⟨l, h, by rw [← parse?_eq_of_sameButBlanks hsame, h]⟩

/-- A sign, white space of another script, a second sign, and brackets in the selector as well as in
the suffix. -/
theorem parse?_loses_nothing_title :
    ((Session.new (.leaf .document) .counted).resolve 0 .root (.raw "a]") .all).2 =
        .error (.badSelector "a]") ∧
      parse? (text ⟨"> a[x]", some (.attribute "title"), true⟩) =
        some ⟨"> a[x]", some (.attribute "title"), true⟩ ∧
      ∃ l, parse? ">\u2003> a[x][title]" = some l ∧ parse? "> > a[x][title]" = some l := by
  obtain ⟨-, hfail, -, htext, hsame⟩ := parse?_loses_nothing
  refine ⟨?_, ?_, ?_⟩
  · rw [hfail _ _ _ (.raw "a]") _ (by decide)]
    rfl
  · exact htext ">> a[x][title]" _ (by decide)
  · exact (hsame _ _).mpr ⟨by decide, by decide,
      .inr ⟨"\u2003", " ", "> a[x][title]", by decide, by decide, rfl, rfl⟩⟩

end MarkupQuery.Locator
