import Mathlib.Data.List.Basic
import MarkupQuery.Css.Token

/-!
# Names and strings written and read

A name that is written by `identifierText` reads back as the same name, whatever characters it
holds, as long as it is not empty and free of null characters (`takeName_identifierText`); and a
string written by `quotedText` reads back as the same string (`takeQuoted_quotedText`). What follows
a name must not go on with it: it may not start with a character of a name or with a backslash.
-/

namespace MarkupQuery.Css

/-- What a name can be: not empty, and free of null characters, which no text holds after its
line ends are settled. -/
def IsName (cs : List Char) : Prop := cs ≠ [] ∧ '\x00' ∉ cs

/-- The rest of a text that does not go on with a name in front of it. -/
def EndsName (rest : List Char) : Prop :=
  ∀ c ∈ rest.head?, isNameChar c = false ∧ c ≠ '\\'

theorem takeName_of_endsName {rest : List Char} (h : EndsName rest) :
    takeName rest = ([], rest) := by
  cases rest with
  | nil => rw [takeName]
  | cons c cs =>
      obtain ⟨hc, hb⟩ := h c rfl
      rw [takeName, if_neg hb, if_neg (by simp [hc])]

/-! ### Escapes -/

/-- The letters of ASCII, as ranges. -/
theorem isAlpha_iff {c : Char} :
    c.isAlpha = true ↔ ('A' ≤ c ∧ c ≤ 'Z') ∨ ('a' ≤ c ∧ c ≤ 'z') := by
  show (decide ('A' ≤ c ∧ c ≤ 'Z') || (decide ('a' ≤ c) && decide (c ≤ 'z'))) = true ↔ _
  rw [Bool.or_eq_true, Bool.and_eq_true, decide_eq_true_eq, decide_eq_true_eq, decide_eq_true_eq]

theorem isNameChar_of_isHex {c : Char} (h : isHex c = true) : isNameChar c = true := by
  simp only [isHex, hexValue?] at h
  simp only [isNameChar, isNameStart, isAlpha_iff, Char.isDigit, Bool.or_eq_true,
    decide_eq_true_eq, Bool.and_eq_true]
  split at h
  · rename_i hd
    exact Or.inl (Or.inr hd)
  · split at h
    · rename_i hd
      exact Or.inl (Or.inl (Or.inl (Or.inl (Or.inr ⟨hd.1, Char.le_trans hd.2 (by decide)⟩))))
    · split at h
      · rename_i hd
        exact Or.inl (Or.inl (Or.inl (Or.inl (Or.inl ⟨hd.1, Char.le_trans hd.2 (by decide)⟩))))
      · cases h

/-- One to six hexadecimal digits and a space are the character with that number. -/
theorem takeEscape_digits {ds : List Char} (hne : ds ≠ []) (hlen : ds.length ≤ 6)
    (hex : ∀ d ∈ ds, isHex d = true) (rest : List Char) :
    takeEscape (ds ++ ' ' :: rest) = (charOfCode (hexNumber ds), rest) := by
  obtain ⟨d, ds, rfl⟩ := List.exists_cons_of_ne_nil hne
  have hd : isHex d = true := hex d List.mem_cons_self
  have hds : ∀ e ∈ ds, isHex e = true := fun e he => hex e (List.mem_cons_of_mem _ he)
  have htake : ((ds ++ ' ' :: rest).take 5).takeWhile isHex = ds := by
    simp only [List.length_cons] at hlen
    rw [List.take_append, List.take_of_length_le (by omega), List.takeWhile_append_of_pos hds]
    cases hn : 5 - ds.length with
    | zero => simp
    | succ n =>
        have hspace : isHex ' ' = false := by decide
        simp [hspace]
  rw [List.cons_append, takeEscape, if_pos hd]
  simp only [htake, List.length_cons, Nat.add_sub_cancel, List.drop_left]
  simp [dropOneSpace, isSpace]

/-- What is escaped by number is ASCII, and two digits at most write it. -/
theorem hexText_ascii : ∀ n < 128, hexText n ≠ [] ∧ (hexText n).length ≤ 6 ∧
    (∀ d ∈ hexText n, isHex d = true) ∧ hexNumber (hexText n) = n := by
  simp only [← List.all_eq_true]
  decide +kernel

theorem charOfCode_toNat {c : Char} (h : c ≠ '\x00') : charOfCode c.toNat = c := by
  have hzero : c.toNat ≠ 0 := by
    intro h0
    exact h (Char.ext (UInt32.toNat_inj.mp h0))
  have hvalid : c.toNat.isValidChar := c.valid
  rw [charOfCode, if_neg (by simp [hzero, hvalid]), Char.ofNat_toNat]

theorem takeEscape_hexText {c : Char} (hc : c ≠ '\x00') (hlt : c.toNat < 128) (rest : List Char) :
    takeEscape (hexText c.toNat ++ ' ' :: rest) = (c, rest) := by
  obtain ⟨hne, hlen, hex, hnum⟩ := hexText_ascii c.toNat hlt
  rw [takeEscape_digits hne hlen hex, hnum, charOfCode_toNat hc]

/-! ### Settled text -/

/-- A character that settling the line ends leaves alone. -/
def IsSettled (c : Char) : Prop := c ≠ '\r' ∧ c ≠ '\x0c' ∧ c ≠ '\x00'

instance (c : Char) : Decidable (IsSettled c) := inferInstanceAs (Decidable (_ ∧ _))

theorem normalize_of_settled {cs : List Char} (h : ∀ c ∈ cs, IsSettled c) : normalize cs = cs := by
  induction cs with
  | nil => rfl
  | cons c cs ih =>
      obtain ⟨hr, hf, hn⟩ := h c List.mem_cons_self
      have ih' := ih fun d hd => h d (List.mem_cons_of_mem _ hd)
      rw [normalize.eq_def]
      split
      · rename_i heq
        cases heq
        exact absurd rfl hr
      · rename_i heq
        cases heq
        simp [hr, hf, hn, ih']
      · rename_i heq
        cases heq

/-- A control character: one that is written by its number. -/
def IsControl (c : Char) : Prop := c.toNat < 0x20 ∨ c = '\x7f'

theorem IsControl.lt {c : Char} (h : IsControl c) : c.toNat < 128 := by
  rcases h with hlt | rfl
  · omega
  · decide

theorem ne_line_of_not_control {c : Char} (h : ¬ IsControl c) : c ≠ '\n' := by
  rintro rfl
  exact h (Or.inl (by decide))

theorem isSettled_of_not_control {c : Char} (h : ¬ IsControl c) : IsSettled c := by
  refine ⟨?_, ?_, ?_⟩ <;>
    · rintro rfl
      exact h (Or.inl (by decide))

theorem isSettled_of_isNameChar {c : Char} (h : isNameChar c = true) : IsSettled c := by
  refine ⟨?_, ?_, ?_⟩ <;>
    · rintro rfl
      exact absurd h (by decide)

theorem isSettled_hexEscape {c : Char} (h : c.toNat < 128) : ∀ d ∈ hexEscape c, IsSettled d := by
  obtain ⟨-, -, hex, -⟩ := hexText_ascii c.toNat h
  intro d hd
  rw [hexEscape, List.cons_append, List.mem_cons, List.mem_append, List.mem_singleton] at hd
  rcases hd with rfl | hd | rfl
  · decide
  · exact isSettled_of_isNameChar (isNameChar_of_isHex (hex d hd))
  · decide

theorem hexEscape_eq {c : Char} (hlt : c.toNat < 128) :
    ∃ d t, hexEscape c = '\\' :: d :: t ∧ d ≠ '\n' := by
  obtain ⟨hne, -, hex, -⟩ := hexText_ascii c.toNat hlt
  obtain ⟨d, ds, hd⟩ := List.exists_cons_of_ne_nil hne
  refine ⟨d, ds ++ [' '], by rw [hexEscape, hd]; rfl, ?_⟩
  rintro rfl
  exact absurd (hex '\n' (by rw [hd]; simp)) (by decide)

/-! ### Names -/

/-- The ways to write the characters of a name: as they are, by number, or behind a backslash. -/
inductive Spelled : List Char → List Char → Prop where
  | nil : Spelled [] []
  | plain {c : Char} {t cs : List Char} (h : isNameChar c = true) (rest : Spelled t cs) :
      Spelled (c :: t) (c :: cs)
  | number {c : Char} {t cs : List Char} (hc : c ≠ '\x00') (hlt : c.toNat < 128)
      (rest : Spelled t cs) : Spelled (hexEscape c ++ t) (c :: cs)
  | backslash {c : Char} {t cs : List Char} (hctl : ¬ IsControl c) (hhex : isHex c = false)
      (rest : Spelled t cs) : Spelled ('\\' :: c :: t) (c :: cs)

namespace Spelled

/-- However a name is written, it reads back. -/
theorem takeName_append {t cs rest : List Char} (h : Spelled t cs) (hrest : EndsName rest) :
    takeName (t ++ rest) = (cs, rest) := by
  induction h with
  | nil => exact takeName_of_endsName hrest
  | plain hc _ ih => rw [List.cons_append, takeName_nameChar hc, ih]
  | @number c t cs hc hlt _ ih =>
      obtain ⟨d, u, hu, hdn⟩ := hexEscape_eq hlt
      have hhead : (hexText c.toNat ++ ' ' :: (t ++ rest)).head? ≠ some '\n' := by
        have htail : hexText c.toNat ++ ' ' :: (t ++ rest) = d :: (u ++ (t ++ rest)) := by
          have := congrArg (fun l => List.tail l ++ (t ++ rest)) hu
          simpa [hexEscape] using this
        rw [htail]
        simpa using hdn
      have htext : hexEscape c ++ t ++ rest = '\\' :: (hexText c.toNat ++ ' ' :: (t ++ rest)) := by
        simp [hexEscape]
      rw [htext, takeName, if_pos rfl, if_neg hhead, takeEscape_hexText hc hlt]
      show (c :: (takeName (t ++ rest)).1, (takeName (t ++ rest)).2) = (c :: cs, rest)
      rw [ih]
  | @backslash c t cs hctl hhex _ ih =>
      have hesc : takeEscape (c :: (t ++ rest)) = (c, t ++ rest) := by simp [takeEscape, hhex]
      have hhead : (c :: (t ++ rest)).head? ≠ some '\n' := by
        simpa using ne_line_of_not_control hctl
      rw [List.cons_append, List.cons_append, takeName, if_pos rfl, if_neg hhead, hesc]
      show (c :: (takeName (t ++ rest)).1, (takeName (t ++ rest)).2) = (c :: cs, rest)
      rw [ih]

theorem isSettled {t cs : List Char} (h : Spelled t cs) : ∀ d ∈ t, IsSettled d := by
  induction h with
  | nil => simp
  | plain hc _ ih =>
      intro d hd
      rcases List.mem_cons.mp hd with rfl | hd
      · exact isSettled_of_isNameChar hc
      · exact ih d hd
  | number hc hlt _ ih =>
      intro d hd
      rcases List.mem_append.mp hd with hd | hd
      · exact isSettled_hexEscape hlt d hd
      · exact ih d hd
  | backslash hctl _ _ ih =>
      intro d hd
      rw [List.mem_cons, List.mem_cons] at hd
      rcases hd with rfl | rfl | hd
      · decide
      · exact isSettled_of_not_control hctl
      · exact ih d hd

end Spelled

theorem spelled_nameText {cs : List Char} (h : '\x00' ∉ cs) : Spelled (nameText cs) cs := by
  induction cs with
  | nil => exact .nil
  | cons c cs ih =>
      rw [List.mem_cons, not_or] at h
      have hc : c ≠ '\x00' := Ne.symm h.1
      show Spelled (nameCharText c ++ nameText cs) (c :: cs)
      unfold nameCharText
      split
      · rename_i hn
        exact .plain hn (ih h.2)
      · rename_i hn
        split
        · rename_i hctl
          exact .number hc (IsControl.lt hctl) (ih h.2)
        · rename_i hctl
          exact .backslash hctl (Bool.eq_false_iff.mpr fun hx => hn (isNameChar_of_isHex hx))
            (ih h.2)

theorem isDigit_lt {c : Char} (h : c.isDigit = true) : c.toNat < 128 ∧ c ≠ '\x00' := by
  simp only [Char.isDigit, Bool.and_eq_true, decide_eq_true_eq] at h
  have h2 : c.toNat ≤ 57 := UInt32.le_iff_toNat_le.mp h.2
  refine ⟨by omega, ?_⟩
  rintro rfl
  exact absurd h.1 (by decide)

/-- A name without its first hyphen, if it starts with one: a digit in front is escaped, and the
rest is written as inside a name. -/
def startText : List Char → List Char
  | c :: cs => if c.isDigit then hexEscape c ++ nameText cs else nameText (c :: cs)
  | [] => []

theorem spelled_startText {cs : List Char} (h : '\x00' ∉ cs) : Spelled (startText cs) cs := by
  cases cs with
  | nil => exact .nil
  | cons c cs =>
      rw [startText]
      split
      · rename_i hd
        obtain ⟨hlt, hc⟩ := isDigit_lt hd
        exact .number hc hlt (spelled_nameText fun hm => h (List.mem_cons_of_mem _ hm))
      · exact spelled_nameText h

/-- The four ways a name is written, by what it starts with. -/
theorem identifierText_cases {cs : List Char} (hne : cs ≠ []) :
    (∃ ds, cs = '-' :: '-' :: ds ∧ identifierText cs = '-' :: '-' :: nameText ds) ∨
    (cs = ['-'] ∧ identifierText cs = ['\\', '-']) ∨
    (∃ c ds, cs = '-' :: c :: ds ∧ c ≠ '-' ∧ identifierText cs = '-' :: startText (c :: ds)) ∨
    ∃ c ds, cs = c :: ds ∧ c ≠ '-' ∧ identifierText cs = startText (c :: ds) := by
  obtain ⟨c, ds, rfl⟩ := List.exists_cons_of_ne_nil hne
  by_cases hc : c = '-'
  · subst hc
    cases ds with
    | nil => exact Or.inr (Or.inl ⟨rfl, rfl⟩)
    | cons d ds =>
        by_cases hd : d = '-'
        · subst hd
          exact Or.inl ⟨ds, rfl, rfl⟩
        · refine Or.inr (Or.inr (Or.inl ⟨d, ds, rfl, hd, ?_⟩))
          simp [identifierText, startText]
  · refine Or.inr (Or.inr (Or.inr ⟨c, ds, rfl, hc, ?_⟩))
    simp [identifierText, startText, hc]

theorem spelled_identifierText {cs : List Char} (h : IsName cs) :
    Spelled (identifierText cs) cs := by
  have hyphen : isNameChar '-' = true := by decide
  obtain ⟨hne, hnul⟩ := h
  rcases identifierText_cases hne with
    ⟨ds, rfl, ht⟩ | ⟨rfl, ht⟩ | ⟨c, ds, rfl, -, ht⟩ | ⟨c, ds, rfl, -, ht⟩
  · rw [ht]
    exact .plain hyphen (.plain hyphen (spelled_nameText fun hm => hnul (by simp [hm])))
  · rw [ht]
    refine .backslash ?_ (by decide) .nil
    rintro (h | h) <;> exact absurd h (by decide)
  · rw [ht]
    exact .plain hyphen (spelled_startText fun hm => hnul (List.mem_cons_of_mem _ hm))
  · rw [ht]
    exact spelled_startText hnul

/-- A written name reads back. -/
theorem takeName_identifierText {cs rest : List Char} (h : IsName cs) (hrest : EndsName rest) :
    takeName (identifierText cs ++ rest) = (cs, rest) :=
  (spelled_identifierText h).takeName_append hrest

theorem isNameStart_ne_digit {c : Char} (h : isNameStart c = true) : c.isDigit = false := by
  rw [Bool.eq_false_iff]
  intro hd
  have hlt := (isDigit_lt hd).1
  simp only [Char.isDigit, Bool.and_eq_true, decide_eq_true_eq] at hd
  have h2 : c.toNat ≤ 57 := UInt32.le_iff_toNat_le.mp hd.2
  simp only [isNameStart, isAlpha_iff, Bool.or_eq_true, beq_iff_eq, Bool.not_eq_true',
    decide_eq_false_iff_not] at h
  rcases h with ((⟨hu, -⟩ | ⟨hl, -⟩) | rfl) | hn
  · have : 65 ≤ c.toNat := UInt32.le_iff_toNat_le.mp hu
    omega
  · have : 97 ≤ c.toNat := UInt32.le_iff_toNat_le.mp hl
    omega
  · exact absurd h2 (by decide)
  · exact hn hlt

/-! ### How a name starts -/

/-- The ways a written name starts. After two hyphens anything may come but the sign that would
close a comment of HTML. -/
inductive NameShape : List Char → Prop where
  | letter {c : Char} {cs : List Char} (h : isNameStart c = true) : NameShape (c :: cs)
  | escape {d : Char} {cs : List Char} (h : d ≠ '\n') : NameShape ('\\' :: d :: cs)
  | hyphenLetter {c : Char} {cs : List Char} (h : isNameStart c = true) : NameShape ('-' :: c :: cs)
  | hyphenEscape {d : Char} {cs : List Char} (h : d ≠ '\n') : NameShape ('-' :: '\\' :: d :: cs)
  | hyphens {cs : List Char} (h : cs.head? ≠ some '>') : NameShape ('-' :: '-' :: cs)

theorem nameCharText_cases {c : Char} (hc : c ≠ '\x00') :
    (isNameChar c = true ∧ nameCharText c = [c]) ∨
      ∃ d t, nameCharText c = '\\' :: d :: t ∧ d ≠ '\n' := by
  unfold nameCharText
  split
  · rename_i h
    exact Or.inl ⟨h, rfl⟩
  · right
    split
    · rename_i hctl
      exact hexEscape_eq (IsControl.lt hctl)
    · rename_i hctl
      exact ⟨c, [], rfl, ne_line_of_not_control hctl⟩

theorem head?_nameText_ne {cs rest : List Char} (h : '\x00' ∉ cs) (hrest : rest.head? ≠ some '>') :
    (nameText cs ++ rest).head? ≠ some '>' := by
  cases cs with
  | nil => exact hrest
  | cons c cs =>
      rw [List.mem_cons, not_or] at h
      rw [nameText, List.flatMap_cons]
      rcases nameCharText_cases (Ne.symm h.1) with ⟨hc, ht⟩ | ⟨d, t, ht, -⟩
      · rw [ht]
        rintro h'
        obtain rfl : c = '>' := by simpa using h'
        exact absurd hc (by decide)
      · rw [ht]
        simp

theorem isNameStart_of_isNameChar {c : Char} (h : isNameChar c = true) (hd : c.isDigit = false)
    (hh : c ≠ '-') : isNameStart c = true := by
  simpa [isNameChar, hd, hh] using h

/-- What is no hyphen starts a name as a letter or as an escape. -/
theorem startText_cases {c : Char} {cs : List Char} (h : c ≠ '-') (hnul : '\x00' ∉ c :: cs) :
    (∃ t, startText (c :: cs) = c :: t ∧ isNameStart c = true) ∨
      ∃ d t, startText (c :: cs) = '\\' :: d :: t ∧ d ≠ '\n' := by
  rw [startText]
  split
  · rename_i hd
    obtain ⟨d, t, ht, hdn⟩ := hexEscape_eq (isDigit_lt hd).1
    exact Or.inr ⟨d, _, by rw [ht]; rfl, hdn⟩
  · rename_i hd
    have hc : c ≠ '\x00' := by
      rintro rfl
      exact hnul List.mem_cons_self
    rw [nameText, List.flatMap_cons]
    rcases nameCharText_cases hc with ⟨hn, ht⟩ | ⟨d, t, ht, hdn⟩
    · exact Or.inl ⟨_, by rw [ht]; rfl, isNameStart_of_isNameChar hn (by simpa using hd) h⟩
    · exact Or.inr ⟨d, _, by rw [ht]; rfl, hdn⟩

/-- A written name starts like a name, whatever follows it but the sign `>`. -/
theorem nameShape_identifierText {cs rest : List Char} (h : IsName cs)
    (hrest : rest.head? ≠ some '>') : NameShape (identifierText cs ++ rest) := by
  obtain ⟨hne, hnul⟩ := h
  rcases identifierText_cases hne with
    ⟨ds, rfl, ht⟩ | ⟨rfl, ht⟩ | ⟨c, ds, rfl, hc, ht⟩ | ⟨c, ds, rfl, hc, ht⟩
  · rw [ht]
    exact .hyphens (head?_nameText_ne (fun hm => hnul (by simp [hm])) hrest)
  · rw [ht]
    exact .escape (by decide)
  · rw [ht]
    rcases startText_cases hc (fun hm => hnul (List.mem_cons_of_mem _ hm)) with
      ⟨t, ht', hs⟩ | ⟨d, t, ht', hdn⟩
    · rw [ht']
      exact .hyphenLetter hs
    · rw [ht']
      exact .hyphenEscape hdn
  · rw [ht]
    rcases startText_cases hc hnul with ⟨t, ht', hs⟩ | ⟨d, t, ht', hdn⟩
    · rw [ht']
      exact .letter hs
    · rw [ht']
      exact .escape hdn

/-! ### Quoted strings -/

theorem takeQuoted_stringCharText {c : Char} (hc : c ≠ '\x00') (rest : List Char) :
    Token.takeQuoted '"' (stringCharText c ++ rest) =
      ((Token.takeQuoted '"' rest).1.map (c :: ·), (Token.takeQuoted '"' rest).2) := by
  -- a backslash is read with the escape behind it
  have escape {d : Char} {ds : List Char} (hd : d ≠ '\n') :
      Token.takeQuoted '"' ('\\' :: d :: ds) =
        ((Token.takeQuoted '"' (takeEscape (d :: ds)).2).1.map ((takeEscape (d :: ds)).1 :: ·),
          (Token.takeQuoted '"' (takeEscape (d :: ds)).2).2) := by
    rw [Token.takeQuoted.eq_def]
    simp [hd]
  unfold stringCharText
  split
  · rename_i h
    have hline : c ≠ '\n' := by rcases h with rfl | rfl <;> decide
    have hhex : isHex c = false := by rcases h with rfl | rfl <;> decide
    rw [List.cons_append, List.singleton_append, escape hline]
    simp [takeEscape, hhex]
  · rename_i hq
    rw [not_or] at hq
    split
    · rename_i hctl
      have hlt : c.toNat < 128 := by
        rcases hctl with hlt | rfl
        · omega
        · decide
      obtain ⟨d, t, ht, hdn⟩ := hexEscape_eq hlt
      have hesc := takeEscape_hexText hc hlt rest
      have hdt : hexText c.toNat ++ ' ' :: rest = d :: (t ++ rest) := by
        have := congrArg (fun l => List.tail l ++ rest) ht
        simpa [hexEscape] using this
      rw [hdt] at hesc
      rw [ht, List.cons_append, List.cons_append, escape hdn, hesc]
    · rename_i hctl
      have hline : c ≠ '\n' := by
        rintro rfl
        exact hctl (Or.inl (by decide))
      rw [List.singleton_append, Token.takeQuoted.eq_def]
      simp [hq.1, hq.2, hline]

/-- A written string reads back. -/
theorem takeQuoted_quotedText {cs : List Char} (h : '\x00' ∉ cs) (rest : List Char) :
    Token.takeQuoted '"' (cs.flatMap stringCharText ++ '"' :: rest) = (some cs, rest) := by
  induction cs with
  | nil =>
      rw [List.flatMap_nil, List.nil_append, Token.takeQuoted.eq_def]
      simp
  | cons c cs ih =>
      rw [List.mem_cons, not_or] at h
      rw [List.flatMap_cons, List.append_assoc, takeQuoted_stringCharText (Ne.symm h.1), ih h.2]
      rfl

theorem isSettled_quotedText {cs : List Char} (h : '\x00' ∉ cs) :
    ∀ d ∈ quotedText cs, IsSettled d := by
  intro d hd
  rw [quotedText, List.cons_append, List.mem_cons, List.mem_append, List.mem_flatMap,
    List.mem_singleton] at hd
  rcases hd with rfl | ⟨c, hcs, hd⟩ | rfl
  · decide
  · unfold stringCharText at hd
    split at hd
    · rename_i hc
      rcases hc with rfl | rfl <;> simp at hd <;> rcases hd with rfl | rfl <;> decide
    · split at hd
      · exact absurd (‹c = '\x00'› ▸ hcs) h
      · split at hd
        · rename_i hctl
          exact isSettled_hexEscape (IsControl.lt hctl) d hd
        · rename_i hctl
          rw [List.mem_singleton.mp hd]
          exact isSettled_of_not_control hctl
  · decide

/-! ### Plain names -/

/-- A name that can be written as it is: it starts like a name, and none of its characters needs an
escape. -/
def IsPlain (name : String) : Prop :=
  startsName name.toList = true ∧ ∀ c ∈ name.toList, isNameChar c = true

-- The characters are checked one by one in the name; there is an instance that goes through all
-- characters there are.
instance (name : String) : Decidable (IsPlain name) :=
  @instDecidableAnd _ _ _ (List.decidableBAll _ name.toList)

theorem isValueSpace_of_isNameChar {c : Char} (h : isNameChar c = true) :
    isValueSpace c = false := by
  rw [Bool.eq_false_iff]
  intro hs
  simp only [isValueSpace, isSpace, Bool.or_eq_true, beq_iff_eq] at hs
  rcases hs with (((rfl | rfl) | rfl) | rfl) | rfl <;> exact absurd h (by decide)

theorem IsPlain.ne_nil {name : String} (h : IsPlain name) : name.toList ≠ [] := by
  intro hn
  have := h.1
  rw [hn] at this
  cases this

theorem IsPlain.isName {name : String} (h : IsPlain name) : IsName name.toList :=
  ⟨h.ne_nil, fun hmem => absurd (h.2 _ hmem) (by decide)⟩

theorem nameText_of_isNameChar {cs : List Char} (h : ∀ c ∈ cs, isNameChar c = true) :
    nameText cs = cs := by
  induction cs with
  | nil => rfl
  | cons c cs ih =>
      have hc : nameCharText c = [c] := if_pos (h c List.mem_cons_self)
      rw [nameText, List.flatMap_cons, hc]
      exact congrArg (c :: ·) (ih fun d hd => h d (List.mem_cons_of_mem _ hd))

/-- A plain name is written as it is. -/
theorem identifierText_of_isPlain {name : String} (h : IsPlain name) :
    identifierText name.toList = name.toList := by
  obtain ⟨hstart, hall⟩ := h
  generalize name.toList = cs at hstart hall
  have hne : cs ≠ [] := by
    rintro rfl
    cases hstart
  have start {c : Char} {ds : List Char} (hc : isNameStart c = true)
      (hds : ∀ d ∈ ds, isNameChar d = true) : startText (c :: ds) = c :: ds := by
    rw [startText, if_neg (by simp [isNameStart_ne_digit hc])]
    refine nameText_of_isNameChar ?_
    intro d hd
    rcases List.mem_cons.mp hd with rfl | hd
    · exact isNameChar_of_isNameStart hc
    · exact hds d hd
  rcases identifierText_cases hne with
    ⟨ds, rfl, ht⟩ | ⟨rfl, -⟩ | ⟨c, ds, rfl, hc, ht⟩ | ⟨c, ds, rfl, hc, ht⟩
  · rw [ht, nameText_of_isNameChar fun c hc => hall c (by simp [hc])]
  · exact absurd hstart (by decide)
  · -- what is not escaped after the hyphen has to start a name itself
    have hback : c ≠ '\\' := by
      rintro rfl
      exact absurd (hall '\\' (by simp)) (by decide)
    have hletter : isNameStart c = true := by
      simpa [startsName, hc] using hstart
    rw [ht, start hletter fun d hd => hall d (by simp [hd])]
  · have hback : c ≠ '\\' := by
      rintro rfl
      exact absurd (hall '\\' (by simp)) (by decide)
    have hletter : isNameStart c = true := by
      unfold startsName at hstart
      split at hstart <;> simp_all
    rw [ht, start hletter fun d hd => hall d (by simp [hd])]

end MarkupQuery.Css
