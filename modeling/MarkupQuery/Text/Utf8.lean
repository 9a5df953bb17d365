/-!
# Text from bytes

Bytes are read as UTF-8. Where they are not, a replacement character stands for each longest run of
bytes that begins a character and does not finish it, and for each byte that cannot begin one.
Reading goes byte by byte with the character under way as its state, so it ends with the bytes.
-/

namespace MarkupQuery.Text.Utf8

def replacement : Char := '\uFFFD'

structure ByteRange where
  low : Nat
  high : Nat
  deriving DecidableEq, Repr

def ByteRange.has (r : ByteRange) (b : Nat) : Bool := r.low ≤ b && b ≤ r.high

/-- What most bytes after the first of a character may be. -/
def continuation : ByteRange := ⟨0x80, 0xBF⟩

/-- A character under way: the number that its bytes so far write, and what the bytes after them may
be. -/
structure Pending where
  value : Nat
  next : ByteRange
  later : List ByteRange
  deriving DecidableEq, Repr

/-- What the first byte of a character of several bytes begins. The ranges of the second byte leave
out what a shorter form could write, surrogates, and numbers above the last code point. -/
def Pending.ofLead? (b : Nat) : Option Pending :=
  if 0xC2 ≤ b && b ≤ 0xDF then some ⟨b - 0xC0, continuation, []⟩
  else if b == 0xE0 then some ⟨0, ⟨0xA0, 0xBF⟩, [continuation]⟩
  else if b == 0xED then some ⟨0xD, ⟨0x80, 0x9F⟩, [continuation]⟩
  else if 0xE1 ≤ b && b ≤ 0xEF then some ⟨b - 0xE0, continuation, [continuation]⟩
  else if b == 0xF0 then some ⟨0, ⟨0x90, 0xBF⟩, [continuation, continuation]⟩
  else if b == 0xF4 then some ⟨4, ⟨0x80, 0x8F⟩, [continuation, continuation]⟩
  else if 0xF1 ≤ b && b ≤ 0xF3 then some ⟨b - 0xF0, continuation, [continuation, continuation]⟩
  else none

/-- Reads a byte where a character begins: the text that is finished, and the character under way.
-/
def start (b : Nat) : List Char × Option Pending :=
  if b < 0x80 then ([Char.ofNat b], none)
  else match Pending.ofLead? b with
    | some p => ([], some p)
    | none => ([replacement], none)

/-- Reads a byte. One that does not fit the character under way ends it and begins the next. -/
def step (state : Option Pending) (b : Nat) : List Char × Option Pending :=
  match state with
  | none => start b
  | some p =>
    if p.next.has b then
      let value := p.value * 0x40 + (b - 0x80)
      match p.later with
      | [] => ([Char.ofNat value], none)
      | r :: rs => ([], some ⟨value, r, rs⟩)
    else
      let (text, state) := start b
      (replacement :: text, state)

def decodeFrom (state : Option Pending) : List Nat → List Char
  | [] => if state.isSome then [replacement] else []
  | b :: bs =>
    let (text, state) := step state b
    text ++ decodeFrom state bs

def decode (bytes : List UInt8) : String :=
  String.ofList (decodeFrom none (bytes.map UInt8.toNat))

def encode (text : String) : List UInt8 := text.toUTF8.toList

end MarkupQuery.Text.Utf8
