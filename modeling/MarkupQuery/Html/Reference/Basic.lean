import MarkupQuery.Html.Reference.Table

/-!
# Character references

What a reference such as `&amp;` or `&#65;` stands for. A name is recognized as a whole when a
semicolon follows it; some names are also recognized without one, and then even as the beginning of
a longer word, though in an attribute value only where no letter, digit or equals sign follows.
-/

namespace MarkupQuery.Html.Reference

/-- The characters that a name stands for when a semicolon follows it. -/
def find? (name : List Char) : Option (List Char) :=
  named.lookup (String.ofList name)

def isShort (word : List Char) : Bool := short.contains (String.ofList word)

/-- The longest beginning of a word that is recognized without a semicolon, as the characters that
it stands for and the rest of the word. The number says how long a beginning to try first. -/
def findShort? (word : List Char) : Nat → Option (List Char × List Char)
  | 0 => none
  | n + 1 =>
    let name := word.take (n + 1)
    if isShort name then
      (find? name).map (·, word.drop (n + 1))
    else findShort? word n

/-- Whether a word is looked at as a whole: a name may go on behind it, or nothing of it is one. -/
def runsOn (word : List Char) : Bool :=
  named.any (fun (name, _) => word.isPrefixOf name.toList) || (findShort? word word.length).isNone

/-- The text of a reference by name. `next?` is the character after the word, and `inValue` says
whether the reference stands in an attribute value. -/
def resolve (word : List Char) (next? : Option Char) (inValue : Bool) : List Char :=
  let semicolon := next? == some ';'
  let close := if semicolon then [';'] else []
  let literal := '&' :: word ++ close
  match if semicolon then find? word else none with
  | some cs => cs
  | none =>
    match findShort? word word.length with
    | none => literal
    | some (cs, rest) =>
      let following := if rest.isEmpty then next? else rest.head?
      if inValue && following.any (fun c => c.isAlphanum || c == '=') then literal
      else cs ++ rest ++ close

/-- The characters that the numbers from 128 to 159 stand for, where they do not stand for the
control characters of those numbers. -/
def controlReplacements : List Nat :=
  [0x20AC, 0x81, 0x201A, 0x0192, 0x201E, 0x2026, 0x2020, 0x2021, 0x02C6, 0x2030, 0x0160, 0x2039,
    0x0152, 0x8D, 0x017D, 0x8F, 0x90, 0x2018, 0x2019, 0x201C, 0x201D, 0x2022, 0x2013, 0x2014,
    0x02DC, 0x2122, 0x0161, 0x203A, 0x0153, 0x9D, 0x017E, 0x0178]

/-- The character of a reference by number: zero, surrogates and numbers beyond the last code point
give the replacement character. -/
def ofNumber (n : Nat) : Char :=
  if n = 0 ∨ ¬ n.isValidChar then '\uFFFD'
  else if 0x80 ≤ n ∧ n ≤ 0x9F then Char.ofNat ((controlReplacements[n - 0x80]?).getD n)
  else Char.ofNat n

end MarkupQuery.Html.Reference
