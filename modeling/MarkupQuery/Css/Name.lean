/-!
# Names and escapes

How CSS writes names: the characters that may stand in one, the escapes for all others, and the
reading of a name from the front of a text. Text is read after `normalize` has settled line ends
and the null character, so that a line end is always a single line feed.
-/

namespace MarkupQuery.Css

/-- The character that stands for what cannot be represented. -/
def replacement : Char := '\uFFFD'

/-- Makes every line end a line feed and every null character the replacement character. -/
def normalize : List Char → List Char
  | '\r' :: '\n' :: cs => '\n' :: normalize cs
  | c :: cs =>
    (if c = '\r' ∨ c = '\x0c' then '\n' else if c = '\x00' then replacement else c) :: normalize cs
  | [] => []

/-- White space, once line ends are normalized. -/
def isSpace (c : Char) : Bool := c == ' ' || c == '\t' || c == '\n'

/-- The white space that separates the words of an attribute value, which is not normalized. -/
def isValueSpace (c : Char) : Bool := isSpace c || c == '\r' || c == '\x0c'

def isNameStart (c : Char) : Bool := c.isAlpha || c == '_' || !(c.toNat < 0x80)

def isNameChar (c : Char) : Bool := isNameStart c || c.isDigit || c == '-'

def hexValue? (c : Char) : Option Nat :=
  if '0' ≤ c ∧ c ≤ '9' then some (c.toNat - '0'.toNat)
  else if 'a' ≤ c ∧ c ≤ 'f' then some (c.toNat - 'a'.toNat + 10)
  else if 'A' ≤ c ∧ c ≤ 'F' then some (c.toNat - 'A'.toNat + 10)
  else none

def isHex (c : Char) : Bool := (hexValue? c).isSome

def hexNumber (cs : List Char) : Nat :=
  cs.foldl (fun n c => 16 * n + (hexValue? c).getD 0) 0

/-- The character with a code point: zero, surrogates and numbers beyond the last code point have
none and give the replacement character. -/
def charOfCode (n : Nat) : Char :=
  if n = 0 ∨ ¬ n.isValidChar then replacement else Char.ofNat n

/-- The white space that may close a hexadecimal escape: at most one character. -/
def dropOneSpace : List Char → List Char
  | c :: cs => if isSpace c then cs else c :: cs
  | [] => []

/-- Reads an escape after its backslash: one to six hexadecimal digits and one white space, or any
single character. At the end of the text it is the replacement character. -/
def takeEscape : List Char → Char × List Char
  | [] => (replacement, [])
  | c :: cs =>
    if isHex c then
      let digits := c :: (cs.take 5).takeWhile isHex
      (charOfCode (hexNumber digits), dropOneSpace (cs.drop (digits.length - 1)))
    else (c, cs)

theorem length_dropOneSpace (cs : List Char) : (dropOneSpace cs).length ≤ cs.length := by
  cases cs with
  | nil => simp [dropOneSpace]
  | cons c cs => simp only [dropOneSpace]; split <;> simp

theorem length_takeEscape (cs : List Char) : (takeEscape cs).2.length ≤ cs.length := by
  cases cs with
  | nil => simp [takeEscape]
  | cons c cs =>
    simp only [takeEscape]
    split
    · refine Nat.le_trans (length_dropOneSpace _) ?_
      simp only [List.length_drop, List.length_cons]
      omega
    · simp

/-- Reads the longest run of name characters and escapes from the front of a text. -/
def takeName : List Char → List Char × List Char
  | [] => ([], [])
  | c :: cs =>
    if c = '\\' then
      if cs.head? = some '\n' then ([], c :: cs)
      else
        let e := takeEscape cs
        let n := takeName e.2
        (e.1 :: n.1, n.2)
    else if isNameChar c then
      let n := takeName cs
      (c :: n.1, n.2)
    else ([], c :: cs)
  termination_by cs => cs.length
  decreasing_by
    · have := length_takeEscape cs
      simp only [List.length_cons]; omega
    · simp

theorem length_takeName (cs : List Char) : (takeName cs).2.length ≤ cs.length := by
  fun_induction takeName cs with
  | case1 => simp
  | case2 => simp
  | case3 cs _ e n ih =>
    have h : e.2.length ≤ cs.length := length_takeEscape cs
    have h' : n.2.length ≤ e.2.length := ih
    simp only [List.length_cons]
    omega
  | case4 c cs _ _ n ih =>
    have h : n.2.length ≤ cs.length := ih
    simp only [List.length_cons]
    omega
  | case5 => simp

/-- Whether a text starts with a name: an escape, a character that starts names, or a hyphen in
front of either or of a second hyphen. -/
def startsName : List Char → Bool
  | '-' :: '\\' :: cs => cs.head? != some '\n'
  | '-' :: c :: _ => isNameStart c || c == '-'
  | '\\' :: cs => cs.head? != some '\n'
  | c :: _ => isNameStart c
  | [] => false

theorem isNameChar_of_isNameStart {c : Char} (h : isNameStart c = true) : isNameChar c = true := by
  simp [isNameChar, h]

theorem takeName_backslash {cs : List Char} (h : (cs.head? != some '\n') = true) :
    (takeName ('\\' :: cs)).2.length ≤ cs.length := by
  have h' : ¬ cs.head? = some '\n' := by simpa using h
  rw [takeName]
  simp only [if_true, h', if_false]
  exact Nat.le_trans (length_takeName _) (length_takeEscape _)

theorem takeName_nameChar {c : Char} {cs : List Char} (h : isNameChar c = true) :
    takeName (c :: cs) = (c :: (takeName cs).1, (takeName cs).2) := by
  have hc : c ≠ '\\' := by rintro rfl; exact absurd h (by decide)
  rw [takeName]
  simp [hc, h]

/-- A name takes at least one character. -/
theorem length_takeName_lt {cs : List Char} (h : startsName cs = true) :
    (takeName cs).2.length < cs.length := by
  have one {c : Char} (cs : List Char) (hc : isNameChar c = true) :
      (takeName (c :: cs)).2.length < (c :: cs).length := by
    rw [takeName_nameChar hc]
    exact Nat.lt_succ_of_le (length_takeName cs)
  unfold startsName at h
  split at h
  · exact one _ (by decide)
  · exact one _ (by decide)
  · exact Nat.lt_succ_of_le (takeName_backslash h)
  · exact one _ (isNameChar_of_isNameStart h)
  · exact absurd h (by decide)

def hexText (n : Nat) : List Char := Nat.toDigits 16 n

/-- Escapes a character by its number; the space ends the digits. -/
def hexEscape (c : Char) : List Char := '\\' :: hexText c.toNat ++ [' ']

def nameCharText (c : Char) : List Char :=
  if isNameChar c then [c]
  else if c = '\x00' then [replacement]
  else if c.toNat < 0x20 ∨ c = '\x7f' then hexEscape c
  else ['\\', c]

def nameText (cs : List Char) : List Char := cs.flatMap nameCharText

/-- Writes a name so that it reads back: a digit at its start is escaped by number, and so is a
hyphen that stands alone. -/
def identifierText : List Char → List Char
  | '-' :: '-' :: cs => '-' :: '-' :: nameText cs
  | ['-'] => ['\\', '-']
  | '-' :: c :: cs => '-' :: (if c.isDigit then hexEscape c ++ nameText cs else nameText (c :: cs))
  | c :: cs => if c.isDigit then hexEscape c ++ nameText cs else nameText (c :: cs)
  | [] => []

def stringCharText (c : Char) : List Char :=
  if c = '"' ∨ c = '\\' then ['\\', c]
  else if c = '\x00' then [replacement]
  else if c.toNat < 0x20 ∨ c = '\x7f' then hexEscape c
  else [c]

def quotedText (cs : List Char) : List Char := '"' :: cs.flatMap stringCharText ++ ['"']

end MarkupQuery.Css
