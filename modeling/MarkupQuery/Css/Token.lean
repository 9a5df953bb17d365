import MarkupQuery.Css.Name

/-!
# Tokens

The words that a CSS text is made of. `Token.scan` reads all of them; comments vanish, and what is
still open at the end of the text is closed there. `Token.text` writes one back.

Tokens that no selector may contain are not told apart: they are all `Token.stray`.
-/

namespace MarkupQuery.Css

inductive Bracket where
  | round
  | square
  | curly
  deriving DecidableEq, Repr

/-- A number as written. Only whole numbers have a value here, since nothing else is ever asked of
a number with a point or an exponent than that it is one. -/
structure Numeral where
  signed : Bool
  whole? : Option Int
  deriving DecidableEq, Repr

inductive Token where
  | blank
  | ident (name : String)
  | function (name : String)
  | hash (name : String)
  | quoted (content : String)
  | number (n : Numeral)
  | dimension (n : Numeral) (unit : String)
  | delim (c : Char)
  | comma
  | colon
  /-- The comparison that a caller writes as one of `~ | ^ $ *` and an equals sign. -/
  | compare (c : Char)
  | opening (b : Bracket)
  | closing (b : Bracket)
  | stray
  deriving DecidableEq, Repr

namespace Token

def dropComment : List Char → List Char
  | '*' :: '/' :: cs => cs
  | _ :: cs => dropComment cs
  | [] => []

/-- Reads a quoted string after its opening quote. There is no string when a line ends in it; a
backslash in front of a line end continues the string on the next line. -/
def takeQuoted (quote : Char) : List Char → Option (List Char) × List Char
  | [] => (some [], [])
  | c :: cs =>
    if c = quote then (some [], cs)
    else if c = '\n' then (none, c :: cs)
    else if c = '\\' then
      match cs with
      | [] => (some [], [])
      | d :: ds =>
        if d = '\n' then takeQuoted quote ds
        else
          let e := takeEscape (d :: ds)
          let s := takeQuoted quote e.2
          (s.1.map (e.1 :: ·), s.2)
    else
      let s := takeQuoted quote cs
      (s.1.map (c :: ·), s.2)
  termination_by cs => cs.length
  decreasing_by
    · simp only [List.length_cons]; omega
    · have := length_takeEscape (d :: ds)
      simp only [List.length_cons] at *; omega
    · simp

def decimal (cs : List Char) : Nat :=
  cs.foldl (fun n c => 10 * n + (c.toNat - '0'.toNat)) 0

def startsNumber : List Char → Bool
  | c :: cs =>
    c.isDigit || pointed (c :: cs) ||
      ((c == '+' || c == '-') && (cs.head?.any Char.isDigit || pointed cs))
  | [] => false
where
  /-- A point and a digit. -/
  pointed : List Char → Bool
    | '.' :: d :: _ => d.isDigit
    | _ => false

def dropFraction : List Char → List Char
  | '.' :: d :: cs => if d.isDigit then cs.dropWhile Char.isDigit else '.' :: d :: cs
  | cs => cs

def dropExponent : List Char → List Char
  | e :: s :: cs =>
    if e = 'e' ∨ e = 'E' then
      if s.isDigit then cs.dropWhile Char.isDigit
      else if s = '+' ∨ s = '-' then
        if cs.head?.any Char.isDigit then cs.dropWhile Char.isDigit else e :: s :: cs
      else e :: s :: cs
    else e :: s :: cs
  | cs => cs

def takeNumeral (cs : List Char) : Numeral × List Char :=
  let signed := cs.head? == some '+' || cs.head? == some '-'
  let negative := cs.head? == some '-'
  let body := if signed then cs.drop 1 else cs
  let digits := body.takeWhile Char.isDigit
  let afterDigits := body.dropWhile Char.isDigit
  let rest := dropExponent (dropFraction afterDigits)
  let value : Int := if negative then -(decimal digits : Int) else decimal digits
  (⟨signed, if rest.length = afterDigits.length then some value else none⟩, rest)

def ofChar (c : Char) : Token :=
  match c with
  | ',' => comma
  | ':' => colon
  | ';' => stray
  | '(' => opening .round
  | '[' => opening .square
  | '\x7b' => opening .curly
  | ')' => closing .round
  | ']' => closing .square
  | '\x7d' => closing .curly
  | _ => delim c

def isComparison (c : Char) : Bool :=
  c == '~' || c == '|' || c == '^' || c == '$' || c == '*'

def nextNumeric (cs : List Char) : Token × List Char :=
  let n := takeNumeral cs
  if n.2.head? = some '%' then (stray, n.2.drop 1)
  else if startsName n.2 then
    let u := takeName n.2
    (dimension n.1 (String.ofList u.1), u.2)
  else (number n.1, n.2)

/-- Reads a name from the front of a text that starts with one; a bracket right after it makes it
a function. -/
def nextName (cs : List Char) : Token × List Char :=
  let n := takeName cs
  if n.2.head? = some '(' then (function (String.ofList n.1), n.2.drop 1)
  else (ident (String.ofList n.1), n.2)

def nextSign (c : Char) (cs : List Char) : Token × List Char :=
  if c = '#' ∧ startsName cs then
    (hash (String.ofList (takeName cs).1), (takeName cs).2)
  else if c = '@' ∧ startsName cs then (stray, (takeName cs).2)
  else if c = '<' ∧ cs.take 3 = ['!', '-', '-'] then (stray, cs.drop 3)
  else if isComparison c ∧ cs.head? = some '=' then (compare c, cs.drop 1)
  else (ofChar c, cs)

def nextQuoted (quote : Char) (cs : List Char) : Token × List Char :=
  let s := takeQuoted quote cs
  (match s.1 with | some q => quoted (String.ofList q) | none => stray, s.2)

def next (c : Char) (cs : List Char) : Token × List Char :=
  if isSpace c then (blank, cs.dropWhile isSpace)
  else if c = '"' ∨ c = '\'' then nextQuoted c cs
  else if startsNumber (c :: cs) then nextNumeric (c :: cs)
  else if c = '-' ∧ cs.take 2 = ['-', '>'] then (stray, cs.drop 2)
  else if startsName (c :: cs) then nextName (c :: cs)
  else nextSign c cs

theorem length_dropComment (cs : List Char) : (dropComment cs).length ≤ cs.length := by
  fun_induction dropComment cs with
  | case1 cs => simp only [List.length_cons]; omega
  | case2 c cs _ ih => simp only [List.length_cons]; omega
  | case3 => simp

theorem length_takeQuoted (quote : Char) (cs : List Char) :
    (takeQuoted quote cs).2.length ≤ cs.length := by
  fun_induction takeQuoted quote cs with
  | case1 => simp
  | case2 => simp
  | case3 => simp
  | case4 => simp
  | case5 => simp only [List.length_cons]; omega
  | case6 =>
    rename_i d ds _ e s _ _ ih
    have h : e.2.length ≤ (d :: ds).length := length_takeEscape (d :: ds)
    have h' : s.2.length ≤ e.2.length := ih
    simp only [List.length_cons] at *
    omega
  | case7 c cs _ _ _ s ih =>
    have h : s.2.length ≤ cs.length := ih
    simp only [List.length_cons]
    omega

theorem length_dropWhile (p : Char → Bool) (cs : List Char) :
    (cs.dropWhile p).length ≤ cs.length :=
  (List.dropWhile_sublist p).length_le

theorem length_dropFraction (cs : List Char) : (dropFraction cs).length ≤ cs.length := by
  unfold dropFraction
  split
  · split
    · have := length_dropWhile Char.isDigit ‹_›
      simp only [List.length_cons]; omega
    · simp
  · simp

theorem length_dropExponent (cs : List Char) : (dropExponent cs).length ≤ cs.length := by
  unfold dropExponent
  split
  · have := length_dropWhile Char.isDigit ‹_›
    repeat' split
    all_goals simp only [List.length_cons]; omega
  · simp

/-- A number takes at least one character. -/
theorem length_takeNumeral {c : Char} {cs : List Char} (h : startsNumber (c :: cs) = true) :
    (takeNumeral (c :: cs)).2.length ≤ cs.length := by
  have drop (ds : List Char) :
      (dropExponent (dropFraction (ds.dropWhile Char.isDigit))).length ≤ ds.length :=
    Nat.le_trans (length_dropExponent _)
      (Nat.le_trans (length_dropFraction _) (length_dropWhile _ _))
  by_cases signed : c = '+' ∨ c = '-'
  · have hs : ((c :: cs).head? == some '+' || (c :: cs).head? == some '-') = true := by
      simpa using signed
    simp only [takeNumeral, hs, if_true, List.drop_one, List.tail_cons]
    exact drop cs
  · have hs : ((c :: cs).head? == some '+' || (c :: cs).head? == some '-') = false := by
      simpa using signed
    simp only [takeNumeral, hs]
    by_cases digit : c.isDigit = true
    · simp only [Bool.false_eq_true, if_false, List.dropWhile_cons, digit, if_true]
      exact drop cs
    · simp only [Bool.false_eq_true, if_false, List.dropWhile_cons, digit]
      refine Nat.le_trans (length_dropExponent _) ?_
      have hp : startsNumber.pointed (c :: cs) = true := by
        simp only [startsNumber, digit, Bool.false_or, Bool.or_eq_true, Bool.and_eq_true,
          beq_iff_eq] at h
        rcases h with h | h
        · exact h
        · exact absurd h.1 signed
      unfold startsNumber.pointed at hp
      split at hp
      · rename_i d ds heq
        rw [heq]
        obtain ⟨rfl, rfl⟩ := List.cons.inj heq
        simp only [dropFraction, hp, if_true]
        have := length_dropWhile Char.isDigit ds
        simp only [List.length_cons]; omega
      · exact absurd hp (by decide)

theorem length_takeName_pred {cs : List Char} (h : startsName cs = true) :
    (takeName cs).2.length ≤ cs.length - 1 := by
  have := length_takeName_lt h
  omega

theorem length_nextNumeric {c : Char} {cs : List Char} (h : startsNumber (c :: cs) = true) :
    (nextNumeric (c :: cs)).2.length ≤ cs.length := by
  have hn := length_takeNumeral h
  simp only [nextNumeric]
  split
  · simp only [List.length_drop]; omega
  · split
    · rename_i hu
      have := length_takeName_pred hu
      simp only; omega
    · exact hn

theorem length_nextName {c : Char} {cs : List Char} (h : startsName (c :: cs) = true) :
    (nextName (c :: cs)).2.length ≤ cs.length := by
  have hn : (takeName (c :: cs)).2.length ≤ cs.length := length_takeName_pred h
  simp only [nextName]
  split
  · simp only [List.length_drop]; omega
  · exact hn

theorem length_nextSign (c : Char) (cs : List Char) : (nextSign c cs).2.length ≤ cs.length := by
  simp only [nextSign]
  repeat' split
  · exact length_takeName _
  · exact length_takeName _
  · simp
  · simp
  · simp

theorem length_next (c : Char) (cs : List Char) : (next c cs).2.length ≤ cs.length := by
  unfold next
  by_cases h₁ : isSpace c = true
  · rw [if_pos h₁]
    exact length_dropWhile _ _
  rw [if_neg h₁]
  by_cases h₂ : c = '"' ∨ c = '\''
  · rw [if_pos h₂]
    exact length_takeQuoted _ _
  rw [if_neg h₂]
  by_cases h₃ : startsNumber (c :: cs) = true
  · rw [if_pos h₃]
    exact length_nextNumeric h₃
  rw [if_neg h₃]
  by_cases h₄ : c = '-' ∧ cs.take 2 = ['-', '>']
  · rw [if_pos h₄]
    simp
  rw [if_neg h₄]
  by_cases h₅ : startsName (c :: cs) = true
  · rw [if_pos h₅]
    exact length_nextName h₅
  rw [if_neg h₅]
  exact length_nextSign c cs

def scanNormal : List Char → List Token
  | [] => []
  | c :: cs =>
    if c = '/' ∧ cs.head? = some '*' then scanNormal (dropComment (cs.drop 1))
    else (next c cs).1 :: scanNormal (next c cs).2
  termination_by cs => cs.length
  decreasing_by
    · have := length_dropComment (cs.drop 1)
      simp only [List.length_drop, List.length_cons] at *; omega
    · have := length_next c cs
      simp only [List.length_cons]; omega

def scan (text : String) : List Token :=
  scanNormal (normalize text.toList)

def numeralText (n : Numeral) : List Char :=
  let value := n.whole?.getD 0
  (if value < 0 then ['-'] else if n.signed then ['+'] else []) ++ Nat.toDigits 10 value.natAbs

def text : Token → List Char
  | blank => [' ']
  | ident n => identifierText n.toList
  | function n => identifierText n.toList ++ ['(']
  | hash n => '#' :: identifierText n.toList
  | quoted s => quotedText s.toList
  | number n => numeralText n
  | dimension n u => numeralText n ++ identifierText u.toList
  | delim c => [c]
  | comma => [',']
  | colon => [':']
  | compare c => [c, '=']
  | opening .round => ['(']
  | opening .square => ['[']
  | opening .curly => ['\x7b']
  | closing .round => [')']
  | closing .square => [']']
  | closing .curly => ['\x7d']
  | stray => [';']

def textOfAll (ts : List Token) : String :=
  String.ofList (ts.flatMap text)

end Token

end MarkupQuery.Css
