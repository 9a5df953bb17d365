import MarkupQuery.Proofs.Css.Piece
import MarkupQuery.Proofs.Css.Token

/-!
# Position formulas written and read

A formula that is read has both numbers in the range that formulas can hold
(`Stride.inRange_of_ofPieces?`), and such a formula reads back when it is written
(`Stride.ofPieces?_tokens`).
-/

namespace MarkupQuery.Css

theorem toList_toLower (s : String) : s.toLower.toList = s.toList.map Char.toLower :=
  String.toList_map

namespace Stride

def Fits (n : Int) : Prop := -limit ≤ n ∧ n < limit

instance (n : Int) : Decidable (Fits n) := inferInstanceAs (Decidable (_ ∧ _))

def InRange (s : Stride) : Prop := Fits s.step ∧ Fits s.offset

theorem clamp_of_fits {n : Int} (h : Fits n) : clamp n = n := by
  obtain ⟨h1, h2⟩ := h
  simp only [clamp]
  omega

theorem fits_clamp (n : Int) : Fits (clamp n) := by
  constructor <;> simp only [clamp, limit] <;> omega

/-! ### Written formulas -/

/-- The unit that writes a negative second number with its sign, and only the letter otherwise. -/
def unitText (offset : Int) : List Char :=
  if offset < 0 then 'n' :: '-' :: Nat.toDigits 10 offset.natAbs else ['n']

def plusTokens (offset : Int) : List Token :=
  if 0 < offset then [.number ⟨true, some offset⟩] else []

theorem tokens_eq (s : Stride) : s.tokens =
    if s.step = 0 then [.number ⟨decide (s.offset < 0), some s.offset⟩]
    else if s.step = 1 then .ident (String.ofList (unitText s.offset)) :: plusTokens s.offset
    else if s.step = -1 then
      .ident (String.ofList ('-' :: unitText s.offset)) :: plusTokens s.offset
    else .dimension ⟨decide (s.step < 0), some s.step⟩ (String.ofList (unitText s.offset)) ::
      plusTokens s.offset := by
  have hunit : (if s.offset < 0 then "n" ++ toString s.offset else "n") =
      String.ofList (unitText s.offset) := by
    apply String.toList_inj.mp
    rw [String.toList_ofList, unitText]
    split
    · rename_i hneg
      have habs : (-s.offset).toNat = s.offset.natAbs := by omega
      rw [Int.toString_eq_repr, Int.repr_eq_if, if_neg (by omega), habs]
      simp
    · rfl
  have hminus : "-" ++ String.ofList (unitText s.offset) =
      String.ofList ('-' :: unitText s.offset) := by
    apply String.toList_inj.mp
    simp
  simp only [tokens, hunit, hminus, plusTokens]

theorem isNameChar_of_mem_unitText {offset : Int} {c : Char} (h : c ∈ unitText offset) :
    isNameChar c = true ∧ c.toLower = c := by
  have digit {d : Char} {n : Nat} (hd : d ∈ Nat.toDigits 10 n) :
      isNameChar d = true ∧ d.toLower = d := by
    have hdigit := Token.isDigit_of_mem_toDigits hd
    refine ⟨by simp [isNameChar, hdigit], ?_⟩
    simp only [Char.isDigit, Bool.and_eq_true, decide_eq_true_eq] at hdigit
    have hle : d.toNat ≤ 57 := UInt32.le_iff_toNat_le.mp hdigit.2
    refine dif_neg ?_
    rintro ⟨hge, -⟩
    have : 65 ≤ d.toNat := UInt32.le_iff_toNat_le.mp hge
    omega
  rw [unitText] at h
  split at h
  · rw [List.mem_cons, List.mem_cons] at h
    rcases h with rfl | rfl | h
    · decide
    · decide
    · exact digit h
  · rw [List.mem_singleton.mp h]
    decide

theorem map_toLower_unitText (offset : Int) :
    (unitText offset).map Char.toLower = unitText offset := by
  refine (List.map_congr_left fun c hc => ?_).trans (List.map_id _)
  exact (isNameChar_of_mem_unitText hc).2

theorem unitText_eq (offset : Int) : ∃ cs, unitText offset = 'n' :: cs := by
  rw [unitText]
  split
  · exact ⟨_, rfl⟩
  · exact ⟨_, rfl⟩

theorem isName_of_isNameChar {cs : List Char} (hne : cs ≠ [])
    (h : ∀ c ∈ cs, isNameChar c = true) : IsName cs :=
  ⟨hne, fun hmem => absurd (h _ hmem) (by decide)⟩

theorem isName_unitText (offset : Int) : IsName (unitText offset) := by
  obtain ⟨cs, hcs⟩ := unitText_eq offset
  exact isName_of_isNameChar (by simp [hcs]) fun c hc => (isNameChar_of_mem_unitText hc).1

theorem isName_hyphen_unitText (offset : Int) : IsName ('-' :: unitText offset) := by
  refine isName_of_isNameChar (by simp) ?_
  intro c hc
  rcases List.mem_cons.mp hc with rfl | hc
  · decide
  · exact (isNameChar_of_mem_unitText hc).1

/-- A written formula is legible in front of the bracket that closes it. -/
theorem legible_tokens (s : Stride) : Token.Legible s.tokens (some ')') := by
  have whole (v : Int) : Numeral.IsWhole ⟨decide (v < 0), some v⟩ := ⟨v, rfl, by simp⟩
  have hplus : Token.Legible (plusTokens s.offset) (some ')') := by
    rw [plusTokens]
    split
    · exact ⟨⟨s.offset, rfl, fun _ => rfl⟩, by rintro c ⟨⟩; rfl, trivial⟩
    · trivial
  have hstops : Token.StopsName (Token.firstChar? (plusTokens s.offset) (some ')')) := by
    rw [plusTokens]
    split
    · have hfirst : Token.firstChar? [.number ⟨true, some s.offset⟩] (some ')') = some '+' := by
        have hpos : ¬ s.offset < 0 := by omega
        simp [Token.firstChar?, Token.text, Token.numeralText, hpos]
      rw [hfirst]
      rintro c ⟨⟩
      decide
    · rintro c ⟨⟩
      decide
  rw [tokens_eq]
  split
  · exact ⟨whole s.offset, by rintro c ⟨⟩; rfl, trivial⟩
  · split
    · refine ⟨?_, hstops, hplus⟩
      show IsName _
      rw [String.toList_ofList]
      exact isName_unitText s.offset
    · split
      · refine ⟨?_, hstops, hplus⟩
        show IsName _
        rw [String.toList_ofList]
        exact isName_hyphen_unitText s.offset
      · refine ⟨⟨whole s.step, ?_⟩, hstops, hplus⟩
        rw [String.toList_ofList]
        obtain ⟨cs, hcs⟩ := unitText_eq s.offset
        exact ⟨isName_unitText s.offset, by rw [hcs]; rfl⟩

/-- No bracket and no white space stands in a written formula. -/
theorem isBare_of_mem_tokens {s : Stride} : ∀ t ∈ s.tokens, Piece.IsBare t ∧ t ≠ .blank := by
  have hplus : ∀ t ∈ plusTokens s.offset, Piece.IsBare t ∧ t ≠ .blank := by
    intro t ht
    rw [plusTokens] at ht
    split at ht
    · rw [List.mem_singleton.mp ht]
      exact ⟨trivial, by simp⟩
    · cases ht
  intro t ht
  rw [tokens_eq] at ht
  split at ht
  · rw [List.mem_singleton.mp ht]
    exact ⟨trivial, by simp⟩
  · split at ht
    · rcases List.mem_cons.mp ht with rfl | ht
      · exact ⟨trivial, by simp⟩
      · exact hplus t ht
    · split at ht <;>
        · rcases List.mem_cons.mp ht with rfl | ht
          · exact ⟨trivial, by simp⟩
          · exact hplus t ht

/-- The unit and what is written behind it read back as the second number. -/
theorem afterStep?_unitText (step : Int) {offset : Int} (h : Fits offset) :
    afterStep? step (unitText offset) ((plusTokens offset).map .word) = some ⟨step, offset⟩ := by
  rcases Int.lt_trichotomy offset 0 with hneg | rfl | hpos
  · have hplus : ¬ 0 < offset := by omega
    have hdecimal : -(Token.decimal (Nat.toDigits 10 offset.natAbs) : Int) = offset := by
      rw [Token.decimal_toDigits]
      omega
    obtain ⟨d, ds, hd, -⟩ := Token.exists_toDigits offset.natAbs
    have hall : (Nat.toDigits 10 offset.natAbs).all Char.isDigit = true := by
      rw [List.all_eq_true]
      exact fun c hc => Token.isDigit_of_mem_toDigits hc
    rw [unitText, plusTokens, if_pos hneg, if_neg hplus]
    rw [hd] at hall hdecimal ⊢
    rw [List.map_nil, afterStep?, if_pos (by simp [hall]), hdecimal, clamp_of_fits h]
    simp
  · rfl
  · have hneg : ¬ offset < 0 := by omega
    rw [unitText, plusTokens, if_neg hneg, if_pos hpos]
    simp [afterStep?, offset?, Piece.trimStart, Piece.isBlank, clamp_of_fits h]

/-- A written formula reads back. -/
theorem ofPieces?_tokens {s : Stride} (h : s.InRange) :
    ofPieces? (s.tokens.map .word) = some s := by
  obtain ⟨step, offset⟩ := s
  obtain ⟨hstep, hoffset⟩ := h
  have hafter (step : Int) := afterStep?_unitText step hoffset
  have hlower := map_toLower_unitText offset
  obtain ⟨cs, hcs⟩ := unitText_eq offset
  rw [tokens_eq]
  simp only
  split
  · rename_i h0
    obtain rfl : step = 0 := h0
    simp [ofPieces?, clamp_of_fits hoffset]
  · split
    · rename_i h1
      obtain rfl : step = 1 := h1
      have hlist : (String.ofList (unitText offset)).toLower.toList = unitText offset := by
        rw [toList_toLower, String.toList_ofList, hlower]
      rw [List.map_cons, ofPieces?, if_neg, if_neg, hlist, hcs]
      · show afterStep? 1 ('n' :: cs) _ = _
        rw [← hcs, hafter]
      · intro e
        rw [e, hcs] at hlist
        exact absurd hlist (by simp)
      · intro e
        rw [e, hcs] at hlist
        exact absurd hlist (by simp)
    · split
      · rename_i h1
        obtain rfl : step = -1 := h1
        have hlist : (String.ofList ('-' :: unitText offset)).toLower.toList =
            '-' :: unitText offset := by
          rw [toList_toLower, String.toList_ofList, List.map_cons, hlower]
          rfl
        rw [List.map_cons, ofPieces?, if_neg, if_neg, hlist]
        · exact hafter (-1)
        · intro e
          rw [e] at hlist
          exact absurd hlist (by simp)
        · intro e
          rw [e] at hlist
          exact absurd hlist (by simp)
      · rw [List.map_cons, ofPieces?, toList_toLower, String.toList_ofList, hlower,
          clamp_of_fits hstep, hafter]

/-! ### Formulas read -/

theorem fits_neg_of_unsigned? {ps : List Piece} (hps : ∀ p ∈ ps, p.Holds Token.IsProper) {v : Int}
    (h : unsigned? ps = some v) : Fits v ∧ Fits (-v) := by
  unfold unsigned? at h
  split at h
  · rename_i w heq
    have hmem : .word (.number ⟨false, some w⟩) ∈ ps := by
      apply Piece.mem_of_mem_trimStart
      rw [heq]
      exact List.mem_cons_self
    have hw : 0 ≤ w := (hps _ hmem).of_word w rfl rfl
    obtain rfl := Option.some.inj h
    refine ⟨fits_clamp w, ?_⟩
    constructor <;> simp only [clamp, limit] <;> omega
  · cases h

theorem fits_of_offset? {ps : List Piece} (hps : ∀ p ∈ ps, p.Holds Token.IsProper) {v : Int}
    (h : offset? ps = some v) : Fits v := by
  have htrim : ∀ p ∈ Piece.trimStart ps, p.Holds Token.IsProper := fun p hp =>
    hps p (Piece.mem_of_mem_trimStart hp)
  unfold offset? at h
  split at h
  · obtain rfl := Option.some.inj h
    decide
  · obtain rfl := Option.some.inj h
    exact fits_clamp _
  · rename_i rest heq
    rw [heq] at htrim
    exact (fits_neg_of_unsigned? (fun p hp => htrim p (List.mem_cons_of_mem _ hp)) h).1
  · rename_i rest heq
    rw [heq] at htrim
    obtain ⟨w, hw, rfl⟩ := Option.map_eq_some_iff.mp h
    exact (fits_neg_of_unsigned? (fun p hp => htrim p (List.mem_cons_of_mem _ hp)) hw).2
  · cases h

theorem inRange_of_afterStep? {step : Int} (hstep : Fits step) {unit : List Char}
    {rest : List Piece} (hrest : ∀ p ∈ rest, p.Holds Token.IsProper) {s : Stride}
    (h : afterStep? step unit rest = some s) : s.InRange := by
  unfold afterStep? at h
  split at h
  · obtain ⟨v, hv, rfl⟩ := Option.map_eq_some_iff.mp h
    exact ⟨hstep, fits_of_offset? hrest hv⟩
  · obtain ⟨v, hv, rfl⟩ := Option.map_eq_some_iff.mp h
    exact ⟨hstep, (fits_neg_of_unsigned? hrest hv).2⟩
  · split at h
    · obtain rfl := Option.some.inj h
      exact ⟨hstep, fits_clamp _⟩
    · cases h
  · cases h

/-- The formula that pieces make has its numbers in range. -/
theorem inRange_of_ofPieces? {ps : List Piece} (hps : ∀ p ∈ ps, p.Holds Token.IsProper) {s : Stride}
    (h : ofPieces? ps = some s) : s.InRange := by
  have fits : Fits 0 ∧ Fits 1 ∧ Fits (-1) ∧ Fits 2 := by decide
  obtain ⟨fits0, fits1, fitsm1, fits2⟩ := fits
  unfold ofPieces? at h
  split at h
  · obtain rfl := Option.some.inj h
    exact ⟨fits0, fits_clamp _⟩
  · exact inRange_of_afterStep? (fits_clamp _) (fun p hp => hps p (List.mem_cons_of_mem _ hp)) h
  · refine inRange_of_afterStep? fits1 (fun p hp => hps p ?_) h
    exact List.mem_cons_of_mem _ (List.mem_cons_of_mem _ hp)
  · have hrest := fun p hp => hps p (List.mem_cons_of_mem _ hp)
    split at h
    · split at h
      · obtain rfl := Option.some.inj h
        exact ⟨fits2, fits0⟩
      · cases h
    · split at h
      · split at h
        · obtain rfl := Option.some.inj h
          exact ⟨fits2, fits1⟩
        · cases h
      · split at h
        · exact inRange_of_afterStep? fitsm1 hrest h
        · exact inRange_of_afterStep? fits1 hrest h
  · cases h

end Stride

end MarkupQuery.Css
