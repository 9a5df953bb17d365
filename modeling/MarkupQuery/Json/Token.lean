import MarkupQuery.Json.Basic

/-!
# Tokens of JSON

The words of a JSON text: punctuation, and the values that have no parts. `JsonToken.scan?` reads
all of them, and fails on a text that has other words, such as a comment or a bare name.
-/

namespace MarkupQuery

inductive JsonToken where
  | openArray | closeArray | openObject | closeObject | comma | colon
  | null | bool (b : Bool) | num (written : String) | str (s : JsonString)

namespace JsonToken

def isSpace (c : Char) : Bool := c == ' ' || c == '\t' || c == '\n' || c == '\r'

def isNumberChar (c : Char) : Bool :=
  c.isDigit || c == '-' || c == '+' || c == '.' || c == 'e' || c == 'E'

def dropDigits? (cs : List Char) : Option (List Char) :=
  match cs with
  | d :: rest => if d.isDigit then some (rest.dropWhile Char.isDigit) else none
  | [] => none

/-- Whether characters write a number: a sign, a whole number without leading zeros, a fraction and
an exponent, of which only the whole number must be there. -/
def isNumber (cs : List Char) : Bool :=
  let unsigned := match cs with | '-' :: rest => rest | _ => cs
  let afterWhole? := match unsigned with
    | '0' :: rest => some rest
    | _ => dropDigits? unsigned
  let afterFraction? := afterWhole?.bind fun
    | '.' :: rest => dropDigits? rest
    | rest => some rest
  let afterExponent? := afterFraction?.bind fun
    | e :: rest =>
      if e = 'e' ∨ e = 'E' then
        dropDigits? (match rest with | '+' :: r => r | '-' :: r => r | _ => rest)
      else some (e :: rest)
    | [] => some []
  afterExponent? == some []

def hexValue? (c : Char) : Option Nat :=
  if '0' ≤ c ∧ c ≤ '9' then some (c.toNat - '0'.toNat)
  else if 'a' ≤ c ∧ c ≤ 'f' then some (c.toNat - 'a'.toNat + 10)
  else if 'A' ≤ c ∧ c ≤ 'F' then some (c.toNat - 'A'.toNat + 10)
  else none

/-- What one place of a JSON string holds: a character, or a code unit of UTF-16 by its number. -/
inductive Unit16 where
  | char (c : Char)
  | code (n : Nat)

def shortEscape? : Char → Option Char
  | '"' => some '"'
  | '\\' => some '\\'
  | '/' => some '/'
  | 'b' => some '\x08'
  | 'f' => some '\x0c'
  | 'n' => some '\n'
  | 'r' => some '\r'
  | 't' => some '\t'
  | _ => none

/-- Reads a string after its opening quote. Control characters must be escaped, and no string is
left open. -/
def takeString? : List Char → Option (List Unit16 × List Char)
  | [] => none
  | '"' :: rest => some ([], rest)
  | '\\' :: 'u' :: a :: b :: c :: d :: rest => do
    let a ← hexValue? a
    let b ← hexValue? b
    let c ← hexValue? c
    let d ← hexValue? d
    let (units, rest) ← takeString? rest
    some (.code (((a * 16 + b) * 16 + c) * 16 + d) :: units, rest)
  | '\\' :: e :: rest => do
    let c ← shortEscape? e
    let (units, rest) ← takeString? rest
    some (.char c :: units, rest)
  | c :: rest =>
    if c = '\\' ∨ c.toNat < 0x20 then none
    else do
      let (units, rest) ← takeString? rest
      some (.char c :: units, rest)

/-- The text of a string: two code units that are halves of a pair are one character, and half a
pair alone is none. -/
def decode : List Unit16 → Option (List Char)
  | [] => some []
  | .char c :: rest => (decode rest).map (c :: ·)
  | .code n :: rest =>
    if n < 0xD800 ∨ 0xDFFF < n then (decode rest).map (Char.ofNat n :: ·)
    else if n < 0xDC00 then
      match rest with
      | .code m :: rest =>
        if 0xDC00 ≤ m ∧ m ≤ 0xDFFF then
          (decode rest).map (Char.ofNat (0x10000 + (n - 0xD800) * 0x400 + (m - 0xDC00)) :: ·)
        else none
      | _ => none
    else none

def next? (c : Char) (cs : List Char) : Option (JsonToken × List Char) :=
  match c with
  | '[' => some (openArray, cs)
  | ']' => some (closeArray, cs)
  | '\x7b' => some (openObject, cs)
  | '\x7d' => some (closeObject, cs)
  | ',' => some (comma, cs)
  | ':' => some (colon, cs)
  | '"' => do
    let (units, rest) ← takeString? cs
    some (str ((decode units).map String.ofList), rest)
  | 'n' => if cs.take 3 = "ull".toList then some (null, cs.drop 3) else none
  | 't' => if cs.take 3 = "rue".toList then some (bool true, cs.drop 3) else none
  | 'f' => if cs.take 4 = "alse".toList then some (bool false, cs.drop 4) else none
  | _ =>
    let written := c :: cs.takeWhile isNumberChar
    if isNumber written then some (num (String.ofList written), cs.dropWhile isNumberChar)
    else none

theorem length_takeString? {cs : List Char} {r : List Unit16 × List Char}
    (h : takeString? cs = some r) : r.2.length ≤ cs.length := by
  fun_induction takeString? cs generalizing r with
  | case1 => simp at h
  | case2 rest =>
    obtain rfl := Option.some.inj h
    simp
  | case3 a b c d rest ih =>
    simp only [Option.bind_eq_bind, Option.bind_eq_some_iff] at h
    obtain ⟨_, _, _, _, _, _, _, _, s, hs, h⟩ := h
    obtain rfl := Option.some.inj h
    have := ih hs
    simp only [List.length_cons]; omega
  | case4 e rest _ ih =>
    simp only [Option.bind_eq_bind, Option.bind_eq_some_iff] at h
    obtain ⟨_, _, s, hs, h⟩ := h
    obtain rfl := Option.some.inj h
    have := ih hs
    simp only [List.length_cons]; omega
  | case5 => simp at h
  | case6 c rest _ _ _ _ ih =>
    simp only [Option.bind_eq_bind, Option.bind_eq_some_iff] at h
    obtain ⟨s, hs, h⟩ := h
    obtain rfl := Option.some.inj h
    have := ih hs
    simp only [List.length_cons]; omega

theorem length_next? {c : Char} {cs : List Char} {r : JsonToken × List Char}
    (h : next? c cs = some r) : r.2.length ≤ cs.length := by
  unfold next? at h
  split at h
  · exact (Option.some.inj h) ▸ Nat.le_refl _
  · exact (Option.some.inj h) ▸ Nat.le_refl _
  · exact (Option.some.inj h) ▸ Nat.le_refl _
  · exact (Option.some.inj h) ▸ Nat.le_refl _
  · exact (Option.some.inj h) ▸ Nat.le_refl _
  · exact (Option.some.inj h) ▸ Nat.le_refl _
  · simp only [Option.bind_eq_bind, Option.bind_eq_some_iff] at h
    obtain ⟨s, hs, h⟩ := h
    obtain rfl := Option.some.inj h
    exact length_takeString? hs
  · split at h
    · obtain rfl := Option.some.inj h
      simp
    · simp at h
  · split at h
    · obtain rfl := Option.some.inj h
      simp
    · simp at h
  · split at h
    · obtain rfl := Option.some.inj h
      simp
    · simp at h
  · dsimp only at h
    split at h
    · obtain rfl := Option.some.inj h
      exact (List.dropWhile_sublist _).length_le
    · simp at h

def scan? : List Char → Option (List JsonToken)
  | [] => some []
  | c :: cs =>
    if isSpace c then scan? cs
    else match _h : next? c cs with
      | none => none
      | some r => (scan? r.2).map (r.1 :: ·)
  termination_by cs => cs.length
  decreasing_by
    · simp
    · have := length_next? _h
      simp only [List.length_cons]; omega

end JsonToken

end MarkupQuery
