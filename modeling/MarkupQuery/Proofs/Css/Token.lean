import MarkupQuery.Proofs.Css.Name

/-!
# Tokens written and read

Tokens that are written one after the other read back (`Token.scan_textOfAll`) as long as none of
them runs into what follows it. Whether one does can be seen from the next character
(`Token.Stops`); tokens of which none does are `Token.Legible`.
-/

namespace MarkupQuery.Css

/-- A number that can be written: a whole one, with its sign if it is negative. -/
def Numeral.IsWhole (n : Numeral) : Prop :=
  ∃ v, n.whole? = some v ∧ (v < 0 → n.signed = true)

namespace Token

/-! ### Numbers -/

/-- The rest of a text that does not go on with a number in front of it. -/
def EndsNumber (rest : List Char) : Prop :=
  ∀ c ∈ rest.head?, c.isDigit = false ∧ c ≠ '.' ∧ c ≠ 'e' ∧ c ≠ 'E'

theorem isDigit_of_mem_toDigits {n : Nat} {d : Char} (h : d ∈ Nat.toDigits 10 n) :
    d.isDigit = true :=
  Nat.isDigit_of_mem_toDigits (by decide) (by decide) h

theorem exists_toDigits (n : Nat) : ∃ d ds, Nat.toDigits 10 n = d :: ds ∧ d.isDigit = true := by
  obtain ⟨d, ds, hd⟩ := List.exists_cons_of_ne_nil (@Nat.toDigits_ne_nil n 10)
  have hmem : d ∈ Nat.toDigits 10 n := by
    rw [hd]
    exact List.mem_cons_self
  exact ⟨d, ds, hd, isDigit_of_mem_toDigits hmem⟩

theorem ne_sign_of_isDigit {d : Char} (h : d.isDigit = true) : d ≠ '+' ∧ d ≠ '-' := by
  constructor <;>
    · rintro rfl
      exact absurd h (by decide)

theorem decimal_toDigits (n : Nat) : decimal (Nat.toDigits 10 n) = n :=
  Nat.ofDigitChars_ten_toDigits

theorem takeWhile_toDigits (n : Nat) {rest : List Char} (h : EndsNumber rest) :
    (Nat.toDigits 10 n ++ rest).takeWhile Char.isDigit = Nat.toDigits 10 n := by
  rw [List.takeWhile_append_of_pos fun d hd => isDigit_of_mem_toDigits hd]
  cases rest with
  | nil => simp
  | cons c cs => simp [(h c rfl).1]

theorem dropWhile_toDigits (n : Nat) {rest : List Char} (h : EndsNumber rest) :
    (Nat.toDigits 10 n ++ rest).dropWhile Char.isDigit = rest := by
  rw [List.dropWhile_append_of_pos fun d hd => isDigit_of_mem_toDigits hd]
  cases rest with
  | nil => rfl
  | cons c cs => simp [(h c rfl).1]

theorem dropFraction_of_endsNumber {rest : List Char} (h : EndsNumber rest) :
    dropFraction rest = rest := by
  unfold dropFraction
  split
  · exact absurd rfl (h '.' rfl).2.1
  · rfl

theorem dropExponent_of_endsNumber {rest : List Char} (h : EndsNumber rest) :
    dropExponent rest = rest := by
  unfold dropExponent
  split
  · rename_i e s cs
    obtain ⟨-, -, he, hE⟩ := h e rfl
    rw [if_neg (by simp [he, hE])]
  · rfl

/-- A written number reads back. -/
theorem takeNumeral_numeralText {n : Numeral} (hn : n.IsWhole) {rest : List Char}
    (hrest : EndsNumber rest) : takeNumeral (numeralText n ++ rest) = (n, rest) := by
  obtain ⟨signed, whole?⟩ := n
  obtain ⟨v, hv, hsign⟩ := hn
  obtain rfl : whole? = some v := hv
  have htake := takeWhile_toDigits v.natAbs hrest
  have hdrop := dropWhile_toDigits v.natAbs hrest
  have hfraction := dropFraction_of_endsNumber hrest
  have hexponent := dropExponent_of_endsNumber hrest
  by_cases hneg : v < 0
  · obtain rfl : signed = true := hsign hneg
    have hvalue : -(decimal (Nat.toDigits 10 v.natAbs) : Int) = v := by
      rw [decimal_toDigits]
      omega
    simp [numeralText, takeNumeral, hneg, htake, hdrop, hfraction, hexponent, hvalue]
  · have hvalue : (decimal (Nat.toDigits 10 v.natAbs) : Int) = v := by
      rw [decimal_toDigits]
      omega
    cases signed with
    | true => simp [numeralText, takeNumeral, hneg, htake, hdrop, hfraction, hexponent, hvalue]
    | false =>
        -- without a sign the text starts with a digit
        obtain ⟨d, ds, hd⟩ := exists_toDigits v.natAbs
        have hhead : (Nat.toDigits 10 v.natAbs ++ rest).head? = some d := by
          rw [hd.1]
          rfl
        obtain ⟨hplus, hminus⟩ := ne_sign_of_isDigit hd.2
        simp [numeralText, takeNumeral, hneg, hhead, hplus, hminus, htake, hdrop, hfraction,
          hexponent, hvalue]

theorem startsNumber_numeralText {n : Numeral} (rest : List Char) :
    ∃ c cs, numeralText n ++ rest = c :: cs ∧ startsNumber (c :: cs) = true ∧
      (c = '-' ∨ c = '+' ∨ c.isDigit = true) := by
  obtain ⟨d, ds, hd, hdigit⟩ := exists_toDigits (n.whole?.getD 0).natAbs
  unfold numeralText
  simp only [hd]
  split
  · exact ⟨'-', d :: ds ++ rest, rfl, by simp [startsNumber, hdigit], Or.inl rfl⟩
  · split
    · exact ⟨'+', d :: ds ++ rest, rfl, by simp [startsNumber, hdigit], Or.inr (Or.inl rfl)⟩
    · exact ⟨d, ds ++ rest, rfl, by simp [startsNumber, hdigit], Or.inr (Or.inr hdigit)⟩

/-! ### One token -/

/-- What a word that stands in a text is like: names are names, strings hold no null character, and
a negative number has its sign. -/
def IsProper : Token → Prop
  | ident n | hash n => IsName n.toList
  | quoted s => '\x00' ∉ s.toList
  | number n => ∀ v ∈ n.whole?, n.signed = false → 0 ≤ v
  | _ => True

def loneSigns : List Char := ['.', '*', '|', '=', '>', '+', '~']

/-- The words that can be written: names are names, strings hold no null character, and numbers are
whole. A unit starts with the letter that starts the units of position formulas. -/
def Writable : Token → Prop
  | ident n | function n | hash n => IsName n.toList
  | quoted s => '\x00' ∉ s.toList
  | number n => n.IsWhole
  | dimension n u => n.IsWhole ∧ IsName u.toList ∧ u.toList.head? = some 'n'
  | delim c => c ∈ loneSigns
  | compare c => isComparison c = true
  | opening b | closing b => b ≠ .curly
  | blank | comma | colon => True
  | stray => False

/-- What may follow a name: no character that goes on with it, no bracket, and not the sign that
would make a comment's end of two hyphens. -/
def StopsName (next? : Option Char) : Prop :=
  ∀ c ∈ next?, isNameChar c = false ∧ c ≠ '\\' ∧ c ≠ '(' ∧ c ≠ '>'

/-- Whether a word ends where it should in front of a character, or at the end of the text. -/
def Stops : Token → Option Char → Prop
  | blank, next? => ∀ c ∈ next?, isSpace c = false
  | ident _, next? | hash _, next? | dimension _ _, next? => StopsName next?
  | number _, next? => ∀ c ∈ next?, c = ')'
  | delim c, next? =>
    ∀ d ∈ next?, if c = '.' then d.isDigit = false else if c = '+' then d = ' ' else d ≠ '='
  | _, _ => True

theorem StopsName.endsName {rest : List Char} (h : StopsName rest.head?) : EndsName rest :=
  fun c hc => ⟨(h c hc).1, (h c hc).2.1⟩

theorem StopsName.ne_bracket {next? : Option Char} (h : StopsName next?) : next? ≠ some '(' :=
  fun e => (h '(' e).2.2.1 rfl

theorem StopsName.ne_greater {next? : Option Char} (h : StopsName next?) : next? ≠ some '>' :=
  fun e => (h '>' e).2.2.2 rfl

theorem scanNormal_cons {c : Char} (hc : c ≠ '/') (cs : List Char) :
    scanNormal (c :: cs) = (next c cs).1 :: scanNormal (next c cs).2 := by
  rw [scanNormal, if_neg]
  rintro ⟨h, -⟩
  exact hc h

theorem startsName_of_nameShape {cs : List Char} (h : NameShape cs) : startsName cs = true := by
  cases h with
  | @letter c cs h =>
      unfold startsName
      split <;> simp_all [isNameStart]
  | escape h => simpa [startsName] using h
  | @hyphenLetter c cs h =>
      have hc : c ≠ '\\' := by
        rintro rfl
        exact absurd h (by decide)
      simp [startsName, h]
  | hyphenEscape h => simpa [startsName] using h
  | hyphens h => simp [startsName]

/-- A text that starts like a name is not taken for anything else. -/
theorem scanNormal_of_nameShape {cs : List Char} (h : NameShape cs) :
    scanNormal cs = (nextName cs).1 :: scanNormal (nextName cs).2 := by
  have hstart := startsName_of_nameShape h
  have key {c : Char} {ds : List Char} (hcs : cs = c :: ds) (hslash : c ≠ '/')
      (hspace : isSpace c = false) (hquote : ¬ (c = '"' ∨ c = '\''))
      (hnumber : startsNumber (c :: ds) = false) (hclose : ¬ (c = '-' ∧ ds.take 2 = ['-', '>'])) :
      scanNormal cs = (nextName cs).1 :: scanNormal (nextName cs).2 := by
    subst hcs
    rw [scanNormal_cons hslash, next, if_neg (by simp [hspace]), if_neg hquote,
      if_neg (by simp [hnumber]), if_neg hclose, if_pos hstart]
  cases h with
  | @letter c ds h =>
      have hdigit := isNameStart_ne_digit h
      have hne : ∀ d : Char, isNameStart d = false → c ≠ d := by
        rintro d hd rfl
        rw [h] at hd
        cases hd
      refine key rfl (hne '/' (by decide)) ?_ ?_ ?_ ?_
      · simp [isSpace, hne ' ' (by decide), hne '\t' (by decide), hne '\n' (by decide)]
      · simp [hne '"' (by decide), hne '\'' (by decide)]
      · simp [startsNumber, startsNumber.pointed, hdigit, hne '.' (by decide), hne '+' (by decide),
          hne '-' (by decide)]
      · simp [hne '-' (by decide)]
  | escape h => exact key rfl (by decide) (by decide) (by decide) rfl (by simp)
  | @hyphenLetter c ds h =>
      have hdigit := isNameStart_ne_digit h
      have hpoint : c ≠ '.' := by
        rintro rfl
        exact absurd h (by decide)
      have hhyphen : c ≠ '-' := by
        rintro rfl
        exact absurd h (by decide)
      refine key rfl (by decide) (by decide) (by decide) ?_ ?_
      · simp [startsNumber, startsNumber.pointed, hdigit, hpoint]
      · simp [hhyphen]
  | hyphenEscape h => exact key rfl (by decide) (by decide) (by decide) rfl (by simp)
  | @hyphens ds h =>
      refine key rfl (by decide) (by decide) (by decide) rfl ?_
      cases ds with
      | nil => simp
      | cons d ds =>
          have hd : d ≠ '>' := fun e => h (by rw [e]; rfl)
          simp [hd]

/-- A character that starts nothing but a word of signs. -/
def IsSign (c : Char) : Prop :=
  isSpace c = false ∧ ¬ (c = '"' ∨ c = '\'') ∧ isNameStart c = false ∧ c ≠ '-' ∧ c ≠ '\\' ∧ c ≠ '/'

instance (c : Char) : Decidable (IsSign c) := inferInstanceAs (Decidable (_ ∧ _))

theorem scanNormal_of_isSign {c : Char} {cs : List Char} (h : IsSign c)
    (hnumber : startsNumber (c :: cs) = false) :
    scanNormal (c :: cs) = (nextSign c cs).1 :: scanNormal (nextSign c cs).2 := by
  obtain ⟨hspace, hquote, hstart, hhyphen, hback, hslash⟩ := h
  have hname : startsName (c :: cs) = false := by
    unfold startsName
    split <;> simp_all
  rw [scanNormal_cons hslash, next, if_neg (by simp [hspace]), if_neg hquote,
    if_neg (by simp [hnumber]), if_neg (by simp [hhyphen]), if_neg (by simp [hname])]

theorem scanNormal_delim {c : Char} (hc : c ∈ loneSigns) {rest : List Char}
    (hs : (delim c).Stops rest.head?) : scanNormal (c :: rest) = delim c :: scanNormal rest := by
  have hs' : ∀ d ∈ rest.head?,
      if c = '.' then d.isDigit = false else if c = '+' then d = ' ' else d ≠ '=' := hs
  simp only [loneSigns, List.mem_cons, List.not_mem_nil, or_false] at hc
  have hnumber : startsNumber (c :: rest) = false := by
    cases rest with
    | nil => rcases hc with rfl | rfl | rfl | rfl | rfl | rfl | rfl <;> rfl
    | cons d rest =>
        have hd := hs' d rfl
        rcases hc with rfl | rfl | rfl | rfl | rfl | rfl | rfl <;> try rfl
        · simpa [startsNumber, startsNumber.pointed] using hd
        · obtain rfl : d = ' ' := hd
          rfl
  have hcompare : ¬ (isComparison c = true ∧ rest.head? = some '=') := by
    rintro ⟨hcmp, hhead⟩
    have hd := hs' '=' hhead
    rcases hc with rfl | rfl | rfl | rfl | rfl | rfl | rfl <;>
      first
        | exact absurd hd (by decide)
        | exact absurd hcmp (by decide)
  rw [scanNormal_of_isSign _ hnumber, nextSign, if_neg _, if_neg _, if_neg _, if_neg hcompare]
  all_goals rcases hc with rfl | rfl | rfl | rfl | rfl | rfl | rfl <;> first | rfl | decide | simp

theorem scanNormal_numeral (n : Numeral) (rest : List Char) :
    scanNormal (numeralText n ++ rest) =
      (nextNumeric (numeralText n ++ rest)).1 ::
        scanNormal (nextNumeric (numeralText n ++ rest)).2 := by
  obtain ⟨c, cs, hcs, hnumber, hc⟩ := startsNumber_numeralText (n := n) rest
  have hsign : c ≠ '/' ∧ isSpace c = false ∧ ¬ (c = '"' ∨ c = '\'') := by
    rcases hc with rfl | rfl | hc
    · decide
    · decide
    · refine ⟨?_, ?_, ?_⟩
      · rintro rfl
        exact absurd hc (by decide)
      · rw [Bool.eq_false_iff]
        intro hspace
        simp only [isSpace, Bool.or_eq_true, beq_iff_eq] at hspace
        rcases hspace with (rfl | rfl) | rfl <;> exact absurd hc (by decide)
      · rintro (rfl | rfl) <;> exact absurd hc (by decide)
  obtain ⟨hslash, hspace, hquote⟩ := hsign
  rw [hcs, scanNormal_cons hslash, next, if_neg (by simp [hspace]), if_neg hquote, if_pos hnumber]

theorem scanNormal_blank {rest : List Char} (hs : blank.Stops rest.head?) :
    scanNormal (' ' :: rest) = blank :: scanNormal rest := by
  have hrest : rest.dropWhile isSpace = rest := by
    cases rest with
    | nil => rfl
    | cons c cs =>
        have hc : isSpace c = false := hs c rfl
        simp [hc]
  rw [scanNormal_cons (by decide), next, if_pos (by decide), hrest]

theorem scanNormal_ident {n : String} (hn : IsName n.toList) {rest : List Char}
    (hs : StopsName rest.head?) :
    scanNormal (identifierText n.toList ++ rest) = ident n :: scanNormal rest := by
  have hname := takeName_identifierText hn hs.endsName
  rw [scanNormal_of_nameShape (nameShape_identifierText hn hs.ne_greater), nextName, hname,
    if_neg hs.ne_bracket, String.ofList_toList]

theorem scanNormal_function {n : String} (hn : IsName n.toList) (rest : List Char) :
    scanNormal (identifierText n.toList ++ '(' :: rest) = function n :: scanNormal rest := by
  have hends : EndsName ('(' :: rest) := by
    rintro c ⟨⟩
    decide
  have hname := takeName_identifierText hn hends
  rw [scanNormal_of_nameShape (nameShape_identifierText hn (by simp)), nextName, hname]
  simp

theorem scanNormal_hash {n : String} (hn : IsName n.toList) {rest : List Char}
    (hs : StopsName rest.head?) :
    scanNormal ('#' :: (identifierText n.toList ++ rest)) = hash n :: scanNormal rest := by
  have hname := takeName_identifierText hn hs.endsName
  have hstart := startsName_of_nameShape (nameShape_identifierText hn hs.ne_greater)
  rw [scanNormal_of_isSign (by decide) rfl, nextSign, if_pos ⟨rfl, hstart⟩, hname,
    String.ofList_toList]

theorem scanNormal_quoted {q : String} (hq : (quoted q).Writable) (rest : List Char) :
    scanNormal (quotedText q.toList ++ rest) = quoted q :: scanNormal rest := by
  have hquoted := takeQuoted_quotedText hq rest
  have htext : quotedText q.toList ++ rest =
      '"' :: (q.toList.flatMap stringCharText ++ '"' :: rest) := by
    simp [quotedText]
  rw [htext, scanNormal_cons (by decide), next, if_neg (by decide), if_pos (Or.inl rfl),
    nextQuoted, hquoted]
  simp

/-- A number reads back in front of the end of its call. -/
theorem scanNormal_number {n : Numeral} (hn : n.IsWhole) {rest : List Char}
    (hs : ∀ c ∈ rest.head?, c = ')') :
    scanNormal (numeralText n ++ rest) = number n :: scanNormal rest := by
  have hends : EndsNumber rest := by
    intro c hc
    rw [hs c hc]
    decide
  have hname : startsName rest = false := by
    cases rest with
    | nil => rfl
    | cons c cs =>
        obtain rfl : c = ')' := hs c rfl
        rfl
  have hpercent : ¬ rest.head? = some '%' := fun e => absurd (hs _ e) (by decide)
  rw [scanNormal_numeral, nextNumeric, takeNumeral_numeralText hn hends, if_neg hpercent,
    if_neg (by simp [hname])]

theorem scanNormal_dimension {n : Numeral} {u : String} (ht : (dimension n u).Writable)
    {rest : List Char} (hs : StopsName rest.head?) :
    scanNormal (numeralText n ++ (identifierText u.toList ++ rest)) =
      dimension n u :: scanNormal rest := by
  obtain ⟨hn, hu, hhead⟩ := ht
  have hname := takeName_identifierText hu hs.endsName
  have hstart := startsName_of_nameShape (nameShape_identifierText hu hs.ne_greater)
  have hunit : (identifierText u.toList ++ rest).head? = some 'n' := by
    obtain ⟨cs, hcs⟩ := List.head?_eq_some_iff.mp hhead
    rw [hcs]
    rfl
  have hends : EndsNumber (identifierText u.toList ++ rest) := by
    intro c hc
    obtain rfl : 'n' = c := Option.some.inj (hunit.symm.trans hc)
    decide
  rw [scanNormal_numeral, nextNumeric, takeNumeral_numeralText hn hends, if_neg (by simp [hunit]),
    if_pos hstart, hname]
  simp

theorem scanNormal_compare {c : Char} (hc : isComparison c = true) (rest : List Char) :
    scanNormal (c :: '=' :: rest) = compare c :: scanNormal rest := by
  have hsign : IsSign c ∧ c.isDigit = false ∧ c ≠ '.' ∧ c ≠ '#' ∧ c ≠ '@' ∧ c ≠ '<' := by
    simp only [isComparison, Bool.or_eq_true, beq_iff_eq] at hc
    rcases hc with (((rfl | rfl) | rfl) | rfl) | rfl <;> decide
  obtain ⟨hsign, hdigit, hpoint, hhash, hat, hless⟩ := hsign
  have hnumber : startsNumber (c :: '=' :: rest) = false := by
    simp [startsNumber, startsNumber.pointed, hdigit, hpoint]
  rw [scanNormal_of_isSign hsign hnumber, nextSign, if_neg (by simp [hhash]),
    if_neg (by simp [hat]), if_neg (by simp [hless]), if_pos ⟨hc, rfl⟩]
  rfl

/-- A written word reads back if it stops in front of what follows it. -/
theorem scanNormal_text {t : Token} (ht : t.Writable) {rest : List Char} (hs : t.Stops rest.head?) :
    scanNormal (t.text ++ rest) = t :: scanNormal rest := by
  cases t with
  | blank => exact scanNormal_blank hs
  | ident n => exact scanNormal_ident ht hs
  | function n =>
      show scanNormal (identifierText n.toList ++ ['('] ++ rest) = _
      rw [List.append_assoc]
      exact scanNormal_function ht rest
  | hash n => exact scanNormal_hash ht hs
  | quoted q => exact scanNormal_quoted ht rest
  | number n => exact scanNormal_number ht hs
  | dimension n u =>
      show scanNormal (numeralText n ++ identifierText u.toList ++ rest) = _
      rw [List.append_assoc]
      exact scanNormal_dimension ht hs
  | delim c => exact scanNormal_delim ht hs
  | comma => exact scanNormal_of_isSign (by decide) rfl
  | colon => exact scanNormal_of_isSign (by decide) rfl
  | compare c => exact scanNormal_compare ht rest
  | opening b => cases b <;> exact scanNormal_of_isSign (by decide) rfl
  | closing b => cases b <;> exact scanNormal_of_isSign (by decide) rfl
  | stray => exact absurd ht id

/-- What is written holds no character that settling the line ends would change. -/
theorem isSettled_text {t : Token} (ht : t.Writable) : ∀ c ∈ t.text, IsSettled c := by
  have digits (n : Numeral) : ∀ c ∈ numeralText n, IsSettled c := by
    intro c hc
    rw [numeralText, List.mem_append] at hc
    rcases hc with hc | hc
    · split at hc
      · rw [List.mem_singleton.mp hc]
        decide
      · split at hc
        · rw [List.mem_singleton.mp hc]
          decide
        · cases hc
    · have hdigit := isDigit_of_mem_toDigits hc
      exact isSettled_of_isNameChar (by simp [isNameChar, hdigit])
  have name {n : String} (hn : IsName n.toList) : ∀ c ∈ identifierText n.toList, IsSettled c :=
    (spelled_identifierText hn).isSettled
  intro c hc
  cases t with
  | ident n => exact name ht c hc
  | function n =>
      rcases List.mem_append.mp hc with hc | hc
      · exact name ht c hc
      · rw [List.mem_singleton.mp hc]
        decide
  | hash n =>
      rcases List.mem_cons.mp hc with rfl | hc
      · decide
      · exact name ht c hc
  | quoted q => exact isSettled_quotedText ht c hc
  | number n => exact digits n c hc
  | dimension n u =>
      rcases List.mem_append.mp hc with hc | hc
      · exact digits n c hc
      · exact name ht.2.1 c hc
  | delim d =>
      have hd : d ∈ loneSigns := ht
      rw [List.mem_singleton.mp hc]
      simp only [loneSigns, List.mem_cons, List.not_mem_nil, or_false] at hd
      rcases hd with rfl | rfl | rfl | rfl | rfl | rfl | rfl <;> decide
  | compare d =>
      have hd : isComparison d = true := ht
      simp only [isComparison, Bool.or_eq_true, beq_iff_eq] at hd
      rcases List.mem_cons.mp hc with rfl | hc
      · rcases hd with (((rfl | rfl) | rfl) | rfl) | rfl <;> decide
      · rw [List.mem_singleton.mp hc]
        decide
  | stray => exact absurd ht id
  | opening b | closing b => cases b <;> rw [List.mem_singleton.mp hc] <;> decide
  | _ =>
      rw [List.mem_singleton.mp hc]
      decide

/-! ### Several tokens -/

def firstChar? (ts : List Token) (next? : Option Char) : Option Char :=
  (ts.flatMap text).head?.or next?

/-- Tokens that can be written one after the other in front of a character, each of them stopping in
front of the next. -/
def Legible : List Token → Option Char → Prop
  | [], _ => True
  | t :: ts, next? => t.Writable ∧ t.Stops (firstChar? ts next?) ∧ Legible ts next?

theorem firstChar?_append (xs ys : List Token) (next? : Option Char) :
    firstChar? (xs ++ ys) next? = firstChar? xs (firstChar? ys next?) := by
  simp [firstChar?, List.flatMap_append, List.head?_append, Option.or_assoc]

theorem legible_append {xs ys : List Token} {next? : Option Char} :
    Legible (xs ++ ys) next? ↔ Legible xs (firstChar? ys next?) ∧ Legible ys next? := by
  induction xs with
  | nil => simp [Legible]
  | cons x xs ih =>
      rw [List.cons_append, Legible, Legible, ih, firstChar?_append]
      tauto

/-- Legible tokens read back. -/
theorem scanNormal_of_legible {ts : List Token} {rest : List Char} (h : Legible ts rest.head?) :
    scanNormal (ts.flatMap text ++ rest) = ts ++ scanNormal rest := by
  induction ts with
  | nil => rfl
  | cons t ts ih =>
      obtain ⟨ht, hs, hts⟩ := h
      have hs' : t.Stops (ts.flatMap text ++ rest).head? := by
        rw [List.head?_append]
        exact hs
      rw [List.flatMap_cons, List.append_assoc, scanNormal_text ht hs', ih hts, List.cons_append]

theorem isSettled_of_legible {ts : List Token} {next? : Option Char} (h : Legible ts next?) :
    ∀ c ∈ ts.flatMap text, IsSettled c := by
  induction ts with
  | nil => simp
  | cons t ts ih =>
      obtain ⟨ht, -, hts⟩ := h
      intro c hc
      rw [List.flatMap_cons, List.mem_append] at hc
      rcases hc with hc | hc
      · exact isSettled_text ht c hc
      · exact ih hts c hc

/-- The text of legible tokens is read as these tokens. -/
theorem scan_textOfAll {ts : List Token} (h : Legible ts none) : scan (textOfAll ts) = ts := by
  have hnil : scanNormal [] = [] := by rw [scanNormal]
  have hscan : scanNormal (ts.flatMap text ++ []) = ts ++ scanNormal [] := scanNormal_of_legible h
  rw [List.append_nil, hnil, List.append_nil] at hscan
  rw [scan, textOfAll, String.toList_ofList, normalize_of_settled (isSettled_of_legible h), hscan]

end Token

end MarkupQuery.Css
