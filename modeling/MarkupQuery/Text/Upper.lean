/-!
# Capitals

Text in capitals, by the case mapping of Unicode. Most letters have one capital. Where letters
follow each other in rows, so do their capitals, and the distance is the same all along a row. Some
letters have no capital of one character, and become several. Whatever has no capital stays.
-/

namespace MarkupQuery.Text

/-- Letters in a row, every one at a distance of `step` code points from the one before, with their
capitals in a row of their own, which is `shift` code points further on. -/
structure CapitalRow where
  first : Nat
  last : Nat
  step : Nat
  shift : Int

namespace CapitalRow

def holds (r : CapitalRow) (c : Char) : Bool :=
  r.first ≤ c.toNat && c.toNat ≤ r.last && (c.toNat - r.first) % r.step == 0

def capital (r : CapitalRow) (c : Char) : Char := Char.ofNat (c.toNat + r.shift).toNat

theorem bounds_of_holds {r : CapitalRow} {c : Char} (h : r.holds c = true) :
    r.first ≤ c.toNat ∧ c.toNat ≤ r.last := by
  simp only [holds, Bool.and_eq_true, decide_eq_true_eq] at h
  exact h.1

end CapitalRow

def asciiRow : CapitalRow := ⟨0x61, 0x7A, 1, -32⟩

/-- The letters outside ASCII with a capital of one character. -/
def otherRows : List CapitalRow :=
  [⟨0xB5, 0xB5, 1, 743⟩, ⟨0xE0, 0xF6, 1, -32⟩, ⟨0xF8, 0xFE, 1, -32⟩, ⟨0xFF, 0xFF, 1, 121⟩,
    ⟨0x101, 0x12F, 2, -1⟩, ⟨0x131, 0x131, 1, -232⟩, ⟨0x133, 0x137, 2, -1⟩, ⟨0x13A, 0x148, 2, -1⟩,
    ⟨0x14B, 0x177, 2, -1⟩, ⟨0x17A, 0x17E, 2, -1⟩, ⟨0x17F, 0x17F, 1, -300⟩, ⟨0x180, 0x180, 1, 195⟩,
    ⟨0x183, 0x185, 2, -1⟩, ⟨0x188, 0x188, 1, -1⟩, ⟨0x18C, 0x18C, 1, -1⟩, ⟨0x192, 0x192, 1, -1⟩,
    ⟨0x195, 0x195, 1, 97⟩, ⟨0x199, 0x199, 1, -1⟩, ⟨0x19A, 0x19A, 1, 163⟩, ⟨0x19B, 0x19B, 1, 42561⟩,
    ⟨0x19E, 0x19E, 1, 130⟩, ⟨0x1A1, 0x1A5, 2, -1⟩, ⟨0x1A8, 0x1A8, 1, -1⟩, ⟨0x1AD, 0x1AD, 1, -1⟩,
    ⟨0x1B0, 0x1B0, 1, -1⟩, ⟨0x1B4, 0x1B6, 2, -1⟩, ⟨0x1B9, 0x1B9, 1, -1⟩, ⟨0x1BD, 0x1BD, 1, -1⟩,
    ⟨0x1BF, 0x1BF, 1, 56⟩, ⟨0x1C5, 0x1C5, 1, -1⟩, ⟨0x1C6, 0x1C6, 1, -2⟩, ⟨0x1C8, 0x1C8, 1, -1⟩,
    ⟨0x1C9, 0x1C9, 1, -2⟩, ⟨0x1CB, 0x1CB, 1, -1⟩, ⟨0x1CC, 0x1CC, 1, -2⟩, ⟨0x1CE, 0x1DC, 2, -1⟩,
    ⟨0x1DD, 0x1DD, 1, -79⟩, ⟨0x1DF, 0x1EF, 2, -1⟩, ⟨0x1F2, 0x1F2, 1, -1⟩, ⟨0x1F3, 0x1F3, 1, -2⟩,
    ⟨0x1F5, 0x1F5, 1, -1⟩, ⟨0x1F9, 0x21F, 2, -1⟩, ⟨0x223, 0x233, 2, -1⟩, ⟨0x23C, 0x23C, 1, -1⟩,
    ⟨0x23F, 0x240, 1, 10815⟩, ⟨0x242, 0x242, 1, -1⟩, ⟨0x247, 0x24F, 2, -1⟩,
    ⟨0x250, 0x250, 1, 10783⟩, ⟨0x251, 0x251, 1, 10780⟩, ⟨0x252, 0x252, 1, 10782⟩,
    ⟨0x253, 0x253, 1, -210⟩, ⟨0x254, 0x254, 1, -206⟩, ⟨0x256, 0x257, 1, -205⟩,
    ⟨0x259, 0x259, 1, -202⟩, ⟨0x25B, 0x25B, 1, -203⟩, ⟨0x25C, 0x25C, 1, 42319⟩,
    ⟨0x260, 0x260, 1, -205⟩, ⟨0x261, 0x261, 1, 42315⟩, ⟨0x263, 0x263, 1, -207⟩,
    ⟨0x264, 0x264, 1, 42343⟩, ⟨0x265, 0x265, 1, 42280⟩, ⟨0x266, 0x266, 1, 42308⟩,
    ⟨0x268, 0x268, 1, -209⟩, ⟨0x269, 0x269, 1, -211⟩, ⟨0x26A, 0x26A, 1, 42308⟩,
    ⟨0x26B, 0x26B, 1, 10743⟩, ⟨0x26C, 0x26C, 1, 42305⟩, ⟨0x26F, 0x26F, 1, -211⟩,
    ⟨0x271, 0x271, 1, 10749⟩, ⟨0x272, 0x272, 1, -213⟩, ⟨0x275, 0x275, 1, -214⟩,
    ⟨0x27D, 0x27D, 1, 10727⟩, ⟨0x280, 0x280, 1, -218⟩, ⟨0x282, 0x282, 1, 42307⟩,
    ⟨0x283, 0x283, 1, -218⟩, ⟨0x287, 0x287, 1, 42282⟩, ⟨0x288, 0x288, 1, -218⟩,
    ⟨0x289, 0x289, 1, -69⟩, ⟨0x28A, 0x28B, 1, -217⟩, ⟨0x28C, 0x28C, 1, -71⟩,
    ⟨0x292, 0x292, 1, -219⟩, ⟨0x29D, 0x29D, 1, 42261⟩, ⟨0x29E, 0x29E, 1, 42258⟩,
    ⟨0x345, 0x345, 1, 84⟩, ⟨0x371, 0x373, 2, -1⟩, ⟨0x377, 0x377, 1, -1⟩, ⟨0x37B, 0x37D, 1, 130⟩,
    ⟨0x3AC, 0x3AC, 1, -38⟩, ⟨0x3AD, 0x3AF, 1, -37⟩, ⟨0x3B1, 0x3C1, 1, -32⟩, ⟨0x3C2, 0x3C2, 1, -31⟩,
    ⟨0x3C3, 0x3CB, 1, -32⟩, ⟨0x3CC, 0x3CC, 1, -64⟩, ⟨0x3CD, 0x3CE, 1, -63⟩, ⟨0x3D0, 0x3D0, 1, -62⟩,
    ⟨0x3D1, 0x3D1, 1, -57⟩, ⟨0x3D5, 0x3D5, 1, -47⟩, ⟨0x3D6, 0x3D6, 1, -54⟩, ⟨0x3D7, 0x3D7, 1, -8⟩,
    ⟨0x3D9, 0x3EF, 2, -1⟩, ⟨0x3F0, 0x3F0, 1, -86⟩, ⟨0x3F1, 0x3F1, 1, -80⟩, ⟨0x3F2, 0x3F2, 1, 7⟩,
    ⟨0x3F3, 0x3F3, 1, -116⟩, ⟨0x3F5, 0x3F5, 1, -96⟩, ⟨0x3F8, 0x3F8, 1, -1⟩, ⟨0x3FB, 0x3FB, 1, -1⟩,
    ⟨0x430, 0x44F, 1, -32⟩, ⟨0x450, 0x45F, 1, -80⟩, ⟨0x461, 0x481, 2, -1⟩, ⟨0x48B, 0x4BF, 2, -1⟩,
    ⟨0x4C2, 0x4CE, 2, -1⟩, ⟨0x4CF, 0x4CF, 1, -15⟩, ⟨0x4D1, 0x52F, 2, -1⟩, ⟨0x561, 0x586, 1, -48⟩,
    ⟨0x10D0, 0x10FA, 1, 3008⟩, ⟨0x10FD, 0x10FF, 1, 3008⟩, ⟨0x13F8, 0x13FD, 1, -8⟩,
    ⟨0x1C80, 0x1C80, 1, -6254⟩, ⟨0x1C81, 0x1C81, 1, -6253⟩, ⟨0x1C82, 0x1C82, 1, -6244⟩,
    ⟨0x1C83, 0x1C84, 1, -6242⟩, ⟨0x1C85, 0x1C85, 1, -6243⟩, ⟨0x1C86, 0x1C86, 1, -6236⟩,
    ⟨0x1C87, 0x1C87, 1, -6181⟩, ⟨0x1C88, 0x1C88, 1, 35266⟩, ⟨0x1C8A, 0x1C8A, 1, -1⟩,
    ⟨0x1D79, 0x1D79, 1, 35332⟩, ⟨0x1D7D, 0x1D7D, 1, 3814⟩, ⟨0x1D8E, 0x1D8E, 1, 35384⟩,
    ⟨0x1E01, 0x1E95, 2, -1⟩, ⟨0x1E9B, 0x1E9B, 1, -59⟩, ⟨0x1EA1, 0x1EFF, 2, -1⟩,
    ⟨0x1F00, 0x1F07, 1, 8⟩, ⟨0x1F10, 0x1F15, 1, 8⟩, ⟨0x1F20, 0x1F27, 1, 8⟩, ⟨0x1F30, 0x1F37, 1, 8⟩,
    ⟨0x1F40, 0x1F45, 1, 8⟩, ⟨0x1F51, 0x1F57, 2, 8⟩, ⟨0x1F60, 0x1F67, 1, 8⟩, ⟨0x1F70, 0x1F71, 1, 74⟩,
    ⟨0x1F72, 0x1F75, 1, 86⟩, ⟨0x1F76, 0x1F77, 1, 100⟩, ⟨0x1F78, 0x1F79, 1, 128⟩,
    ⟨0x1F7A, 0x1F7B, 1, 112⟩, ⟨0x1F7C, 0x1F7D, 1, 126⟩, ⟨0x1FB0, 0x1FB1, 1, 8⟩,
    ⟨0x1FBE, 0x1FBE, 1, -7205⟩, ⟨0x1FD0, 0x1FD1, 1, 8⟩, ⟨0x1FE0, 0x1FE1, 1, 8⟩,
    ⟨0x1FE5, 0x1FE5, 1, 7⟩, ⟨0x214E, 0x214E, 1, -28⟩, ⟨0x2170, 0x217F, 1, -16⟩,
    ⟨0x2184, 0x2184, 1, -1⟩, ⟨0x24D0, 0x24E9, 1, -26⟩, ⟨0x2C30, 0x2C5F, 1, -48⟩,
    ⟨0x2C61, 0x2C61, 1, -1⟩, ⟨0x2C65, 0x2C65, 1, -10795⟩, ⟨0x2C66, 0x2C66, 1, -10792⟩,
    ⟨0x2C68, 0x2C6C, 2, -1⟩, ⟨0x2C73, 0x2C73, 1, -1⟩, ⟨0x2C76, 0x2C76, 1, -1⟩,
    ⟨0x2C81, 0x2CE3, 2, -1⟩, ⟨0x2CEC, 0x2CEE, 2, -1⟩, ⟨0x2CF3, 0x2CF3, 1, -1⟩,
    ⟨0x2D00, 0x2D25, 1, -7264⟩, ⟨0x2D27, 0x2D27, 1, -7264⟩, ⟨0x2D2D, 0x2D2D, 1, -7264⟩,
    ⟨0xA641, 0xA66D, 2, -1⟩, ⟨0xA681, 0xA69B, 2, -1⟩, ⟨0xA723, 0xA72F, 2, -1⟩,
    ⟨0xA733, 0xA76F, 2, -1⟩, ⟨0xA77A, 0xA77C, 2, -1⟩, ⟨0xA77F, 0xA787, 2, -1⟩,
    ⟨0xA78C, 0xA78C, 1, -1⟩, ⟨0xA791, 0xA793, 2, -1⟩, ⟨0xA794, 0xA794, 1, 48⟩,
    ⟨0xA797, 0xA7A9, 2, -1⟩, ⟨0xA7B5, 0xA7C3, 2, -1⟩, ⟨0xA7C8, 0xA7CA, 2, -1⟩,
    ⟨0xA7CD, 0xA7DB, 2, -1⟩, ⟨0xA7F6, 0xA7F6, 1, -1⟩, ⟨0xAB53, 0xAB53, 1, -928⟩,
    ⟨0xAB70, 0xABBF, 1, -38864⟩, ⟨0xFF41, 0xFF5A, 1, -32⟩, ⟨0x10428, 0x1044F, 1, -40⟩,
    ⟨0x104D8, 0x104FB, 1, -40⟩, ⟨0x10597, 0x105BB, 2, -39⟩, ⟨0x10598, 0x105A0, 2, -39⟩,
    ⟨0x105A4, 0x105B0, 2, -39⟩, ⟨0x105B4, 0x105B8, 2, -39⟩, ⟨0x105BC, 0x105BC, 1, -39⟩,
    ⟨0x10CC0, 0x10CF2, 1, -64⟩, ⟨0x10D70, 0x10D85, 1, -32⟩, ⟨0x118C0, 0x118DF, 1, -32⟩,
    ⟨0x16E60, 0x16E7F, 1, -32⟩, ⟨0x16EBB, 0x16ED3, 1, -27⟩, ⟨0x1E922, 0x1E943, 1, -34⟩]

/-- The letters that become several characters. -/
def longCapitals : List (Char × List Char) :=
  [('\u00DF', ['S', 'S']), ('\u0149', ['\u02BC', 'N']), ('\u01F0', ['J', '\u030C']),
    ('\u0390', ['\u0399', '\u0308', '\u0301']), ('\u03B0', ['\u03A5', '\u0308', '\u0301']),
    ('\u0587', ['\u0535', '\u0552']), ('\u1E96', ['H', '\u0331']), ('\u1E97', ['T', '\u0308']),
    ('\u1E98', ['W', '\u030A']), ('\u1E99', ['Y', '\u030A']), ('\u1E9A', ['A', '\u02BE']),
    ('\u1F50', ['\u03A5', '\u0313']), ('\u1F52', ['\u03A5', '\u0313', '\u0300']),
    ('\u1F54', ['\u03A5', '\u0313', '\u0301']), ('\u1F56', ['\u03A5', '\u0313', '\u0342']),
    ('\u1F80', ['\u1F08', '\u0399']), ('\u1F81', ['\u1F09', '\u0399']),
    ('\u1F82', ['\u1F0A', '\u0399']), ('\u1F83', ['\u1F0B', '\u0399']),
    ('\u1F84', ['\u1F0C', '\u0399']), ('\u1F85', ['\u1F0D', '\u0399']),
    ('\u1F86', ['\u1F0E', '\u0399']), ('\u1F87', ['\u1F0F', '\u0399']),
    ('\u1F88', ['\u1F08', '\u0399']), ('\u1F89', ['\u1F09', '\u0399']),
    ('\u1F8A', ['\u1F0A', '\u0399']), ('\u1F8B', ['\u1F0B', '\u0399']),
    ('\u1F8C', ['\u1F0C', '\u0399']), ('\u1F8D', ['\u1F0D', '\u0399']),
    ('\u1F8E', ['\u1F0E', '\u0399']), ('\u1F8F', ['\u1F0F', '\u0399']),
    ('\u1F90', ['\u1F28', '\u0399']), ('\u1F91', ['\u1F29', '\u0399']),
    ('\u1F92', ['\u1F2A', '\u0399']), ('\u1F93', ['\u1F2B', '\u0399']),
    ('\u1F94', ['\u1F2C', '\u0399']), ('\u1F95', ['\u1F2D', '\u0399']),
    ('\u1F96', ['\u1F2E', '\u0399']), ('\u1F97', ['\u1F2F', '\u0399']),
    ('\u1F98', ['\u1F28', '\u0399']), ('\u1F99', ['\u1F29', '\u0399']),
    ('\u1F9A', ['\u1F2A', '\u0399']), ('\u1F9B', ['\u1F2B', '\u0399']),
    ('\u1F9C', ['\u1F2C', '\u0399']), ('\u1F9D', ['\u1F2D', '\u0399']),
    ('\u1F9E', ['\u1F2E', '\u0399']), ('\u1F9F', ['\u1F2F', '\u0399']),
    ('\u1FA0', ['\u1F68', '\u0399']), ('\u1FA1', ['\u1F69', '\u0399']),
    ('\u1FA2', ['\u1F6A', '\u0399']), ('\u1FA3', ['\u1F6B', '\u0399']),
    ('\u1FA4', ['\u1F6C', '\u0399']), ('\u1FA5', ['\u1F6D', '\u0399']),
    ('\u1FA6', ['\u1F6E', '\u0399']), ('\u1FA7', ['\u1F6F', '\u0399']),
    ('\u1FA8', ['\u1F68', '\u0399']), ('\u1FA9', ['\u1F69', '\u0399']),
    ('\u1FAA', ['\u1F6A', '\u0399']), ('\u1FAB', ['\u1F6B', '\u0399']),
    ('\u1FAC', ['\u1F6C', '\u0399']), ('\u1FAD', ['\u1F6D', '\u0399']),
    ('\u1FAE', ['\u1F6E', '\u0399']), ('\u1FAF', ['\u1F6F', '\u0399']),
    ('\u1FB2', ['\u1FBA', '\u0399']), ('\u1FB3', ['\u0391', '\u0399']),
    ('\u1FB4', ['\u0386', '\u0399']), ('\u1FB6', ['\u0391', '\u0342']),
    ('\u1FB7', ['\u0391', '\u0342', '\u0399']), ('\u1FBC', ['\u0391', '\u0399']),
    ('\u1FC2', ['\u1FCA', '\u0399']), ('\u1FC3', ['\u0397', '\u0399']),
    ('\u1FC4', ['\u0389', '\u0399']), ('\u1FC6', ['\u0397', '\u0342']),
    ('\u1FC7', ['\u0397', '\u0342', '\u0399']), ('\u1FCC', ['\u0397', '\u0399']),
    ('\u1FD2', ['\u0399', '\u0308', '\u0300']), ('\u1FD3', ['\u0399', '\u0308', '\u0301']),
    ('\u1FD6', ['\u0399', '\u0342']), ('\u1FD7', ['\u0399', '\u0308', '\u0342']),
    ('\u1FE2', ['\u03A5', '\u0308', '\u0300']), ('\u1FE3', ['\u03A5', '\u0308', '\u0301']),
    ('\u1FE4', ['\u03A1', '\u0313']), ('\u1FE6', ['\u03A5', '\u0342']),
    ('\u1FE7', ['\u03A5', '\u0308', '\u0342']), ('\u1FF2', ['\u1FFA', '\u0399']),
    ('\u1FF3', ['\u03A9', '\u0399']), ('\u1FF4', ['\u038F', '\u0399']),
    ('\u1FF6', ['\u03A9', '\u0342']), ('\u1FF7', ['\u03A9', '\u0342', '\u0399']),
    ('\u1FFC', ['\u03A9', '\u0399']), ('\uFB00', ['F', 'F']), ('\uFB01', ['F', 'I']),
    ('\uFB02', ['F', 'L']), ('\uFB03', ['F', 'F', 'I']), ('\uFB04', ['F', 'F', 'L']),
    ('\uFB05', ['S', 'T']), ('\uFB06', ['S', 'T']), ('\uFB13', ['\u0544', '\u0546']),
    ('\uFB14', ['\u0544', '\u0535']), ('\uFB15', ['\u0544', '\u053B']),
    ('\uFB16', ['\u054E', '\u0546']), ('\uFB17', ['\u0544', '\u053D'])]

def upperChar (c : Char) : List Char :=
  match longCapitals.lookup c with
  | some capitals => capitals
  | none =>
    match (asciiRow :: otherRows).find? (·.holds c) with
    | some row => [row.capital c]
    | none => [c]

def upper (cs : List Char) : List Char := cs.flatMap upperChar

/-- The capitals of a character are several, or the one of its row, or itself. -/
theorem upperChar_cases (c : Char) :
    (∃ p ∈ longCapitals, upperChar c = p.2) ∨
      (∃ r ∈ asciiRow :: otherRows, r.holds c = true ∧ upperChar c = [r.capital c]) ∨
      upperChar c = [c] := by
  rw [upperChar]
  split
  · next capitals hlong =>
      obtain ⟨before, behind, hsplit, -⟩ := List.lookup_eq_some_iff.mp hlong
      exact .inl ⟨(c, capitals), by simp [hsplit], rfl⟩
  · split
    · next r hr =>
        have hholds := List.find?_some (p := fun r : CapitalRow => r.holds c) hr
        exact .inr (.inl ⟨r, List.mem_of_find?_eq_some hr, hholds, rfl⟩)
    · exact .inr (.inr rfl)

/-! ### ASCII -/

theorem longCapitals_not_ascii : ∀ p ∈ longCapitals, 128 ≤ p.1.toNat := by decide +kernel

theorem otherRows_not_ascii : ∀ r ∈ otherRows, 128 ≤ r.first := by decide +kernel

theorem lookup_longCapitals_of_ascii {c : Char} (h : c.toNat < 128) :
    longCapitals.lookup c = none := by
  rw [List.lookup_eq_none_iff]
  intro p hp
  have hlong := longCapitals_not_ascii p hp
  refine bne_iff_ne.mpr ?_
  rintro rfl
  omega

theorem find?_otherRows_of_ascii {c : Char} (h : c.toNat < 128) :
    otherRows.find? (·.holds c) = none := by
  rw [List.find?_eq_none]
  intro r hr hholds
  have hfirst := otherRows_not_ascii r hr
  have hbounds := CapitalRow.bounds_of_holds hholds
  omega

/-- In ASCII, capitals are what core takes for them. -/
theorem upperChar_of_ascii {c : Char} (h : c.toNat < 128) : upperChar c = [c.toUpper] := by
  have hletters : ∀ n < 128, (if asciiRow.holds (Char.ofNat n) then asciiRow.capital (Char.ofNat n)
      else Char.ofNat n) = (Char.ofNat n).toUpper := by decide +kernel
  have hletter := hletters c.toNat h
  rw [Char.ofNat_toNat] at hletter
  rw [upperChar, lookup_longCapitals_of_ascii h, List.find?_cons, find?_otherRows_of_ascii h,
    ← hletter]
  cases asciiRow.holds c <;> rfl

end MarkupQuery.Text
