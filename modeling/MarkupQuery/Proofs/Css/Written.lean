import MarkupQuery.Css.Selector.Printer
import MarkupQuery.Proofs.Css.Stride

/-!
# The pieces of a written selector

A selector whose names are names and whose numbers are in range is `Writable`. The tokens that write
it make pieces (`Complex.grouped`) in which every compound, every test and every combinator has its
own (`Complex.pieces`), and the reader finds in them what was written: a list of writable selectors
reads back from its pieces (`SelectorList.ofPieces?_pieces`).
-/

namespace MarkupQuery.Css

/-! ### What can be written -/

def TypeTest.Writable : TypeTest → Prop
  | any | bare none => True
  | named n | bare (some n) => IsName n.toList

def AttributeTest.Writable (t : AttributeTest) : Prop :=
  IsName t.name.toList ∧ ∀ c ∈ t.comparison?, '\x00' ∉ c.value.toList

mutual

/-- Whether a test can be written. What `:not()` takes is a test that it may take. -/
def Simple.Writable : Simple → Prop
  | .id n | .hasClass n => IsName n.toList
  | .attr t => t.Writable
  | .pseudo _ => True
  | .position _ s => s.InRange
  | .notType t => t.Writable
  | .not s => s.isNegatable = true ∧ s.Writable
  | .host c => Compound.Writable c

def Compound.Writable : Compound → Prop
  | ⟨t, ss⟩ => t.Writable ∧ Simple.AllWritable ss

def Simple.AllWritable : List Simple → Prop
  | [] => True
  | s :: ss => s.Writable ∧ Simple.AllWritable ss

end

/-- Whether a selector can be written: all its compounds can. -/
def Complex.Writable (e : Complex) : Prop :=
  e.subject.Writable ∧ ∀ step ∈ e.left, step.2.Writable

/-! ### The pieces of what is written -/

def Comparison.tokens (c : Comparison) : List Token :=
  c.operator.token :: .quoted c.value :: c.letterCase.tokens

def AttributeTest.innerTokens (t : AttributeTest) : List Token :=
  (if t.anySpace then [.delim '*', .delim '|'] else []) ++
    .ident t.name :: t.comparison?.elim [] Comparison.tokens

mutual

/-- The pieces that a test is written as. -/
def Simple.pieces : Simple → List Piece
  | .id n => [.word (.hash n)]
  | .hasClass n => [.word (.delim '.'), .word (.ident n)]
  | .attr t => [.block .square (t.innerTokens.map .word)]
  | .pseudo c => [.word .colon, .word (.ident c.name)]
  | .position c s => [.word .colon, .call c.name (s.tokens.map .word)]
  | .notType t => [.word .colon, .call "not" (t.tokens.map .word)]
  | .not s => [.word .colon, .call "not" s.pieces]
  | .host c => [.word .colon, .call "host" (Compound.pieces c)]

def Compound.pieces : Compound → List Piece
  | ⟨.any, s :: ss⟩ => Simple.piecesOfAll (s :: ss)
  | ⟨t, ss⟩ => t.tokens.map .word ++ Simple.piecesOfAll ss

def Simple.piecesOfAll : List Simple → List Piece
  | [] => []
  | s :: ss => s.pieces ++ Simple.piecesOfAll ss

end

namespace Complex

def leftPieces : List (Combinator × Compound) → List Piece
  | [] => []
  | (c, k) :: rest => leftPieces rest ++ k.pieces ++ c.tokens.map .word

def pieces (e : Complex) : List Piece :=
  leftPieces e.left ++ e.subject.pieces

end Complex

/-- A piece that stands inside a compound: neither a gap nor a comma. -/
def Piece.IsInner (p : Piece) : Prop := p.isGap = false ∧ p.isComma = false

theorem Piece.IsInner.not_blank {p : Piece} (h : p.IsInner) : p.isBlank = false := by
  cases p with
  | word t =>
      cases t with
      | blank => exact h.1
      | _ => rfl
  | _ => rfl

theorem Piece.trim_of_isInner {ps : List Piece} (h : ∀ p ∈ ps, p.IsInner) : Piece.trim ps = ps :=
  Piece.trim_eq_self (fun p hp => (h p (List.mem_of_mem_head? hp)).not_blank)
    fun p hp => (h p (List.mem_of_mem_getLast? hp)).not_blank

theorem TypeTest.isInner (t : TypeTest) : ∀ p ∈ t.tokens.map Piece.word, p.IsInner := by
  rcases t with _ | n | (_ | n) <;>
    simp [TypeTest.tokens, Piece.IsInner, Piece.isGap, Piece.isComma]

theorem Simple.isInner (s : Simple) : ∀ p ∈ s.pieces, p.IsInner := by
  cases s <;> simp [Simple.pieces, Piece.IsInner, Piece.isGap, Piece.isComma]

theorem Simple.isInner_piecesOfAll (ss : List Simple) :
    ∀ p ∈ Simple.piecesOfAll ss, p.IsInner := by
  induction ss with
  | nil => simp [Simple.piecesOfAll]
  | cons s ss ih =>
      intro p hp
      rw [Simple.piecesOfAll, List.mem_append] at hp
      rcases hp with hp | hp
      · exact s.isInner p hp
      · exact ih p hp

/-- The two ways a compound is written. -/
theorem Compound.cases_pieces (k : Compound) :
    (∃ s ss, k = ⟨.any, s :: ss⟩ ∧ k.tokens = Simple.tokensOfAll (s :: ss) ∧
      k.pieces = Simple.piecesOfAll (s :: ss)) ∨
    (k.tokens = k.type.tokens ++ Simple.tokensOfAll k.tests ∧
      k.pieces = k.type.tokens.map .word ++ Simple.piecesOfAll k.tests) := by
  obtain ⟨t, ss⟩ := k
  rcases t with _ | n | n
  · cases ss with
    | nil => exact Or.inr ⟨by simp [Compound.tokens], by simp [Compound.pieces]⟩
    | cons s ss => exact Or.inl ⟨s, ss, rfl, by simp [Compound.tokens], by simp [Compound.pieces]⟩
  · exact Or.inr ⟨by simp [Compound.tokens], by simp [Compound.pieces]⟩
  · exact Or.inr ⟨by simp [Compound.tokens], by simp [Compound.pieces]⟩

theorem Compound.isInner (k : Compound) : ∀ p ∈ k.pieces, p.IsInner := by
  rcases k.cases_pieces with ⟨s, ss, -, -, hp⟩ | ⟨-, hp⟩
  · rw [hp]
    exact Simple.isInner_piecesOfAll _
  · rw [hp]
    intro p hmem
    rcases List.mem_append.mp hmem with h | h
    · exact k.type.isInner p h
    · exact Simple.isInner_piecesOfAll _ p h

theorem Simple.pieces_ne_nil (s : Simple) : s.pieces ≠ [] := by
  cases s <;> simp [Simple.pieces]

theorem TypeTest.tokens_ne_nil (t : TypeTest) : t.tokens ≠ [] := by
  rcases t with _ | n | (_ | n) <;> simp [TypeTest.tokens]

theorem Compound.pieces_ne_nil (k : Compound) : k.pieces ≠ [] := by
  rcases k.cases_pieces with ⟨s, ss, -, -, hp⟩ | ⟨-, hp⟩
  · rw [hp, Simple.piecesOfAll]
    simp [s.pieces_ne_nil]
  · rw [hp]
    simp [k.type.tokens_ne_nil]

/-! ### Tokens make these pieces -/

theorem AttributeTest.tokens_eq (t : AttributeTest) :
    t.tokens = .opening .square :: t.innerTokens ++ [.closing .square] := by
  obtain ⟨anySpace, name, _ | c⟩ := t <;>
    simp [AttributeTest.tokens, AttributeTest.innerTokens, Comparison.tokens]

theorem AttributeTest.isBare (t : AttributeTest) : ∀ u ∈ t.innerTokens, Piece.IsBare u := by
  obtain ⟨anySpace, name, _ | ⟨op, value, letterCase⟩⟩ := t <;> cases anySpace
  · simp [innerTokens, Piece.IsBare]
  · simp [innerTokens, Piece.IsBare]
  · cases op <;> cases letterCase <;>
      simp [innerTokens, Comparison.tokens, Operator.token, LetterCase.tokens, Piece.IsBare]
  · cases op <;> cases letterCase <;>
      simp [innerTokens, Comparison.tokens, Operator.token, LetterCase.tokens, Piece.IsBare]

theorem AttributeTest.trim_inner (t : AttributeTest) :
    Piece.trim (t.innerTokens.map .word) = t.innerTokens.map .word := by
  obtain ⟨anySpace, name, _ | ⟨op, value, letterCase⟩⟩ := t <;> cases anySpace
  · rfl
  · rfl
  · cases letterCase <;> cases op <;> rfl
  · cases letterCase <;> cases op <;> rfl

theorem TypeTest.isBare (t : TypeTest) : ∀ u ∈ t.tokens, Piece.IsBare u := by
  rcases t with _ | n | (_ | n) <;> simp [TypeTest.tokens, Piece.IsBare]

theorem Stride.trim_tokens (s : Stride) : Piece.trim (s.tokens.map .word) = s.tokens.map .word := by
  have hblank : ∀ p ∈ s.tokens.map Piece.word, p.isBlank = false := by
    intro p hp
    obtain ⟨t, ht, rfl⟩ := List.mem_map.mp hp
    have hne := (isBare_of_mem_tokens t ht).2
    cases t <;> first | rfl | exact absurd rfl hne
  exact Piece.trim_eq_self (fun p hp => hblank p (List.mem_of_mem_head? hp))
    fun p hp => hblank p (List.mem_of_mem_getLast? hp)

mutual

theorem Simple.grouped : ∀ s : Simple, Piece.Grouped s.tokens s.pieces
  | .id n => by
      rw [Simple.tokens, Simple.pieces]
      exact .word trivial
  | .hasClass n => by
      rw [Simple.tokens, Simple.pieces]
      exact (Piece.Grouped.word (t := .delim '.') trivial).append (.word trivial)
  | .attr t => by
      rw [Simple.tokens, Simple.pieces, t.tokens_eq, ← t.trim_inner]
      exact (Piece.Grouped.words t.isBare).block .square
  | .pseudo c => by
      rw [Simple.tokens, Simple.pieces]
      exact (Piece.Grouped.word (t := .colon) trivial).append (.word trivial)
  | .position c s => by
      rw [Simple.tokens, Simple.pieces, ← s.trim_tokens]
      exact (Piece.Grouped.word (t := .colon) trivial).append
        ((Piece.Grouped.words fun t ht => (Stride.isBare_of_mem_tokens t ht).1).call c.name)
  | .notType t => by
      rw [Simple.tokens, Simple.pieces, ← Piece.trim_of_isInner t.isInner]
      exact (Piece.Grouped.word (t := .colon) trivial).append
        ((Piece.Grouped.words t.isBare).call "not")
  | .not s => by
      rw [Simple.tokens, Simple.pieces, ← Piece.trim_of_isInner s.isInner]
      exact (Piece.Grouped.word (t := .colon) trivial).append (s.grouped.call "not")
  | .host k => by
      rw [Simple.tokens, Simple.pieces, ← Piece.trim_of_isInner k.isInner]
      exact (Piece.Grouped.word (t := .colon) trivial).append (k.grouped.call "host")

theorem Compound.grouped : ∀ k : Compound, Piece.Grouped k.tokens k.pieces
  | ⟨.any, s :: ss⟩ => by
      rw [Compound.tokens, Compound.pieces]
      exact Simple.grouped_ofAll (s :: ss)
  | ⟨.any, []⟩ => by
      rw [Compound.tokens, Compound.pieces]
      · exact (Piece.Grouped.words (TypeTest.isBare _)).append (Simple.grouped_ofAll [])
      · simp
      · simp
  | ⟨.named n, ss⟩ => by
      rw [Compound.tokens, Compound.pieces]
      · exact (Piece.Grouped.words (TypeTest.isBare _)).append (Simple.grouped_ofAll ss)
      · simp
      · simp
  | ⟨.bare n, ss⟩ => by
      rw [Compound.tokens, Compound.pieces]
      · exact (Piece.Grouped.words (TypeTest.isBare _)).append (Simple.grouped_ofAll ss)
      · simp
      · simp

theorem Simple.grouped_ofAll :
    ∀ ss : List Simple, Piece.Grouped (Simple.tokensOfAll ss) (Simple.piecesOfAll ss)
  | [] => by
      rw [Simple.tokensOfAll, Simple.piecesOfAll]
      exact .nil
  | s :: ss => by
      rw [Simple.tokensOfAll, Simple.piecesOfAll]
      exact s.grouped.append (Simple.grouped_ofAll ss)

end

theorem Combinator.isBare (c : Combinator) : ∀ t ∈ c.tokens, Piece.IsBare t := by
  cases c <;> simp [Combinator.tokens, Piece.IsBare]

theorem Complex.grouped_left :
    ∀ left : List (Combinator × Compound), Piece.Grouped (leftTokens left) (leftPieces left)
  | [] => .nil
  | (c, k) :: rest =>
      ((Complex.grouped_left rest).append k.grouped).append (.words c.isBare)

theorem Complex.grouped (e : Complex) : Piece.Grouped e.tokens e.pieces :=
  (Complex.grouped_left e.left).append e.subject.grouped

/-! ### The pieces read back -/

theorem LetterCase.letterCase?_tokens (l : LetterCase) :
    AttributeTest.letterCase? (Piece.trimStart (l.tokens.map .word)) = some l := by
  cases l with
  | byName => rfl
  | ignored =>
      show AttributeTest.letterCase? [.word (.ident "i")] = _
      rw [AttributeTest.letterCase?, if_pos (by decide +kernel)]
  | exact =>
      show AttributeTest.letterCase? [.word (.ident "s")] = _
      rw [AttributeTest.letterCase?, if_neg (by decide +kernel), if_pos (by decide +kernel)]

theorem Operator.operator?_token (o : Operator) : AttributeTest.operator? o.token = some o := by
  cases o <;> rfl

theorem AttributeTest.afterName?_tokens (c : Comparison) :
    afterName? (c.tokens.map .word) = some (some c) := by
  have htrim : Piece.trimStart (.word c.operator.token :: .word (.quoted c.value) ::
      c.letterCase.tokens.map .word) = .word c.operator.token :: .word (.quoted c.value) ::
        c.letterCase.tokens.map .word := by
    cases c.operator <;> rfl
  have hvalue : Piece.trimStart (.word (.quoted c.value) :: c.letterCase.tokens.map .word) =
      .word (.quoted c.value) :: c.letterCase.tokens.map .word := rfl
  rw [Comparison.tokens, List.map_cons, List.map_cons, afterName?, htrim]
  simp [Operator.operator?_token, hvalue, value?, LetterCase.letterCase?_tokens]

theorem AttributeTest.ofPieces?_inner (t : AttributeTest) :
    AttributeTest.ofPieces? (t.innerTokens.map .word) = some t := by
  obtain ⟨anySpace, name, _ | c⟩ := t
  · cases anySpace <;> rfl
  · have hafter := afterName?_tokens c
    -- a comparison never starts with the bar that would make the name a vocabulary
    have hbar : ∀ ps, c.tokens.map Piece.word ≠ .word (.delim '|') :: ps := by
      obtain ⟨op, value, letterCase⟩ := c
      cases op <;> simp [Comparison.tokens, Operator.token]
    cases anySpace <;> simp [innerTokens, ofPieces?, hafter]

theorem Simple.not_leads (s : Simple) (rest : List Piece) :
    TypeTest.leads (s.pieces ++ rest) = false := by
  cases s <;> rfl

/-- Pieces that do not start with a test on the name are all other tests. -/
theorem Compound.ofPieces?_of_not_leads {ps : List Piece} (hne : ps ≠ [])
    (h : TypeTest.leads ps = false) :
    Compound.ofPieces? ps = (Simple.allOfPieces? ps).map (⟨.any, ·⟩) := by
  unfold Compound.ofPieces?
  split
  · exact absurd rfl hne
  · simp [TypeTest.leads] at h
  · simp [TypeTest.leads] at h
  · simp [TypeTest.leads] at h
  · simp [TypeTest.leads] at h
  · simp [TypeTest.leads] at h
  · simp [TypeTest.leads] at h
  · simp [TypeTest.leads] at h
  · rename_i p rest _ _ _ _ _ _ _
    cases Simple.allOfPieces? (p :: rest) <;> rfl

/-- What follows a test on the name reads as all other tests. -/
theorem Compound.ofPieces?_append (t : TypeTest) {rest : List Piece}
    (h : TypeTest.leads rest = false) :
    Compound.ofPieces? (t.tokens.map .word ++ rest) = (Simple.allOfPieces? rest).map (⟨t, ·⟩) := by
  have hbar : ∀ ps, rest ≠ .word (.delim '|') :: ps := by
    rintro ps rfl
    simp [TypeTest.leads] at h
  rcases t with _ | n | (_ | n)
  · show Compound.ofPieces? (.word (.delim '*') :: rest) = _
    rw [Compound.ofPieces?]
    · exact fun ps => hbar _
    · exact fun n ps => hbar _
  · show Compound.ofPieces? (.word (.ident n) :: rest) = _
    rw [Compound.ofPieces?]
    exact fun ps => hbar _
  · show Compound.ofPieces? (.word (.delim '|') :: .word (.delim '*') :: rest) = _
    rw [Compound.ofPieces?]
  · show Compound.ofPieces? (.word (.delim '|') :: .word (.ident n) :: rest) = _
    rw [Compound.ofPieces?]

mutual

/-- A written test reads back, and the tests behind it are read next. -/
theorem Simple.allOfPieces?_pieces : ∀ (s : Simple) (_ : s.Writable) (rest : List Piece),
    Simple.allOfPieces? (s.pieces ++ rest) = (Simple.allOfPieces? rest).map (s :: ·)
  | .id n, _, rest => by
      rw [Simple.pieces, List.singleton_append, Simple.allOfPieces?]
  | .hasClass n, _, rest => by
      rw [Simple.pieces, List.cons_append, List.singleton_append, Simple.allOfPieces?]
  | .attr t, _, rest => by
      rw [Simple.pieces, List.singleton_append, Simple.allOfPieces?, t.ofPieces?_inner]
      rfl
  | .pseudo c, _, rest => by
      rw [Simple.pieces, List.cons_append, List.singleton_append, Simple.allOfPieces?,
        PseudoClass.ofName?_name]
      rfl
  | .position c s, h, rest => by
      have hs : s.InRange := by rwa [Simple.Writable] at h
      have hname : c.name.toLower ≠ "not" ∧ c.name.toLower ≠ "host" := by
        obtain ⟨_ | _, _ | _⟩ := c <;> decide +kernel
      rw [Simple.pieces, List.cons_append, List.singleton_append, Simple.allOfPieces?,
        if_neg hname.1, if_neg hname.2, Counting.ofName?_name, Stride.ofPieces?_tokens hs]
      rfl
  | .notType t, _, rest => by
      have hinner : Compound.ofPieces? (t.tokens.map .word) = some ⟨t, []⟩ := by
        have := @Compound.ofPieces?_append t [] rfl
        rwa [List.append_nil, Simple.allOfPieces?] at this
      rw [Simple.pieces, List.cons_append, List.singleton_append, Simple.allOfPieces?,
        if_pos (by decide +kernel), hinner]
      rfl
  | .not s, h, rest => by
      obtain ⟨hneg, hs⟩ : s.isNegatable = true ∧ s.Writable := by rwa [Simple.Writable] at h
      have hleads : TypeTest.leads s.pieces = false := by
        have := s.not_leads []
        rwa [List.append_nil] at this
      have hinner : Compound.ofPieces? s.pieces = some ⟨.any, [s]⟩ := by
        have hall := s.allOfPieces?_pieces hs []
        rw [List.append_nil, Simple.allOfPieces?] at hall
        rw [Compound.ofPieces?_of_not_leads s.pieces_ne_nil hleads, hall]
        rfl
      rw [Simple.pieces, List.cons_append, List.singleton_append, Simple.allOfPieces?,
        if_pos (by decide +kernel), hinner]
      simp [Compound.negated?, hleads, hneg]
  | .host k, h, rest => by
      have hk : k.Writable := by rwa [Simple.Writable] at h
      rw [Simple.pieces, List.cons_append, List.singleton_append, Simple.allOfPieces?,
        if_neg (by decide +kernel), if_pos (by decide +kernel), k.ofPieces?_pieces hk]
      rfl

/-- A written compound reads back. -/
theorem Compound.ofPieces?_pieces : ∀ (k : Compound) (_ : k.Writable),
    Compound.ofPieces? k.pieces = some k
  | ⟨t, ss⟩, h => by
      have hss : Simple.AllWritable ss := by
        rw [Compound.Writable] at h
        exact h.2
      have hall := Simple.allOfPieces?_piecesOfAll ss hss
      rcases Compound.cases_pieces ⟨t, ss⟩ with ⟨s, ss', hk, -, hp⟩ | ⟨-, hp⟩
      · cases hk
        have hleads : TypeTest.leads (Simple.piecesOfAll (s :: ss')) = false := s.not_leads _
        rw [hp, Compound.ofPieces?_of_not_leads (by simp [Simple.piecesOfAll, s.pieces_ne_nil])
          hleads, hall]
        rfl
      · have hleads : TypeTest.leads (Simple.piecesOfAll ss) = false := by
          cases ss with
          | nil => rfl
          | cons s ss => exact s.not_leads _
        rw [hp, Compound.ofPieces?_append t hleads, hall]
        rfl

theorem Simple.allOfPieces?_piecesOfAll : ∀ (ss : List Simple) (_ : Simple.AllWritable ss),
    Simple.allOfPieces? (Simple.piecesOfAll ss) = some ss
  | [], _ => by rw [Simple.piecesOfAll, Simple.allOfPieces?]
  | s :: ss, h => by
      rw [Simple.AllWritable] at h
      rw [Simple.piecesOfAll, s.allOfPieces?_pieces h.1, Simple.allOfPieces?_piecesOfAll ss h.2]
      rfl

end

/-! ### Selectors read back -/

theorem Combinator.ofGap?_tokens (c : Combinator) :
    Combinator.ofGap? (c.tokens.map .word) = some c := by
  cases c <;> rfl

theorem Combinator.isGap (c : Combinator) : ∀ p ∈ c.tokens.map Piece.word, p.isGap = true := by
  cases c <;> simp [Combinator.tokens, Piece.isGap]

theorem Combinator.not_comma (c : Combinator) :
    ∀ p ∈ c.tokens.map Piece.word, p.isComma = false := by
  cases c <;> simp [Combinator.tokens, Piece.isComma]

theorem Combinator.tokens_ne_nil (c : Combinator) : c.tokens.map Piece.word ≠ [] := by
  cases c <;> simp [Combinator.tokens]

theorem Compound.head?_pieces (k : Compound) (rest : List Piece) :
    ∀ p ∈ (k.pieces ++ rest).head?, p.IsInner := by
  obtain ⟨p, ps, hp⟩ := List.exists_cons_of_ne_nil k.pieces_ne_nil
  have hmem := k.isInner
  rw [hp] at hmem ⊢
  rintro q ⟨⟩
  exact hmem p List.mem_cons_self

theorem Compound.runs_append (k : Compound) {rest : List Piece}
    (h : ∀ p ∈ rest.head?, p.isGap = true) :
    runs Piece.isGap (k.pieces ++ rest) = k.pieces :: runs Piece.isGap rest :=
  Css.runs_append k.pieces_ne_nil (fun p hp => (k.isInner p hp).1) (by simpa using h)

theorem Combinator.head?_pieces (c : Combinator) (rest : List Piece) :
    ∀ p ∈ (c.tokens.map Piece.word ++ rest).head?, p.isGap = true := by
  cases c <;>
    · rintro p ⟨⟩
      rfl

namespace Complex

/-- Reads runs of pieces: a compound, and then gaps and compounds in turn. -/
def ofRuns? : List (List Piece) → Option Complex
  | [] => none
  | first :: rest => (Compound.ofPieces? first).bind fun k => extendAll? ⟨k, []⟩ rest

theorem ofPieces?_eq (ps : List Piece) :
    Complex.ofPieces? ps = ofRuns? (runs Piece.isGap (Piece.trim ps)) := by
  rw [Complex.ofPieces?]
  cases runs Piece.isGap (Piece.trim ps) <;> rfl

/-- The runs of a written selector are read one after the other, from the left. -/
theorem ofRuns?_append (left : List (Combinator × Compound))
    (hleft : ∀ step ∈ left, step.2.Writable) (k : Compound) (hk : k.Writable) (rest : List Piece)
    (hrest : ∀ p ∈ rest.head?, p.isGap = true) :
    ofRuns? (runs Piece.isGap (leftPieces left ++ k.pieces ++ rest)) =
      extendAll? ⟨k, left⟩ (runs Piece.isGap rest) := by
  induction left generalizing k rest with
  | nil =>
      rw [leftPieces, List.nil_append, k.runs_append hrest, ofRuns?, k.ofPieces?_pieces hk]
      rfl
  | cons step left ih =>
      -- the list holds the steps from the right to the left, so the compound of the first step is
      -- the last one that is read before `k`
      obtain ⟨c, k'⟩ := step
      have hgap : runs Piece.isGap (c.tokens.map .word ++ (k.pieces ++ rest)) =
          c.tokens.map .word :: k.pieces :: runs Piece.isGap rest := by
        rw [Css.runs_append c.tokens_ne_nil c.isGap, k.runs_append hrest]
        intro p hp
        exact (k.head?_pieces rest p hp).1
      have hpieces : leftPieces ((c, k') :: left) ++ k.pieces ++ rest =
          leftPieces left ++ k'.pieces ++ (c.tokens.map .word ++ (k.pieces ++ rest)) := by
        simp [leftPieces]
      rw [hpieces, ih (fun s hs => hleft s (List.mem_cons_of_mem _ hs)) k'
        (hleft _ List.mem_cons_self) _ (c.head?_pieces _), hgap, extendAll?, c.ofGap?_tokens,
        k.ofPieces?_pieces hk]
      rfl

theorem getLast?_leftPieces (left : List (Combinator × Compound)) (k : Compound) :
    ∀ p ∈ (leftPieces left ++ k.pieces).getLast?, p.isBlank = false := by
  intro p hp
  rw [List.getLast?_append_of_ne_nil _ k.pieces_ne_nil] at hp
  exact (k.isInner p (List.mem_of_mem_getLast? hp)).not_blank

theorem head?_leftPieces (left : List (Combinator × Compound)) (k : Compound) (rest : List Piece) :
    ∀ p ∈ (leftPieces left ++ k.pieces ++ rest).head?, p.isBlank = false := by
  induction left generalizing k rest with
  | nil =>
      intro p hp
      exact (k.head?_pieces rest p hp).not_blank
  | cons step left ih =>
      obtain ⟨c, k'⟩ := step
      have := ih k' (c.tokens.map .word ++ (k.pieces ++ rest))
      simpa [leftPieces] using this

theorem trim_pieces (e : Complex) : Piece.trim e.pieces = e.pieces := by
  have hhead := head?_leftPieces e.left e.subject []
  rw [List.append_nil] at hhead
  exact Piece.trim_eq_self hhead (getLast?_leftPieces e.left e.subject)

/-- A written selector reads back. -/
theorem ofPieces?_pieces {e : Complex} (h : e.Writable) : Complex.ofPieces? e.pieces = some e := by
  have := ofRuns?_append e.left h.2 e.subject h.1 [] (by simp)
  rw [List.append_nil, runs, extendAll?] at this
  rw [ofPieces?_eq, trim_pieces]
  exact this

theorem not_comma (e : Complex) : ∀ p ∈ e.pieces, p.isComma = false := by
  have hleft (left : List (Combinator × Compound)) : ∀ p ∈ leftPieces left, p.isComma = false := by
    induction left with
    | nil => simp [leftPieces]
    | cons step left ih =>
        obtain ⟨c, k⟩ := step
        intro p hp
        rw [leftPieces, List.mem_append, List.mem_append] at hp
        rcases hp with (hp | hp) | hp
        · exact ih p hp
        · exact (k.isInner p hp).2
        · exact c.not_comma p hp
  intro p hp
  rcases List.mem_append.mp hp with hp | hp
  · exact hleft e.left p hp
  · exact (e.subject.isInner p hp).2

end Complex

namespace SelectorList

/-- The tokens of a list of selectors: those of its entries with a comma and a space between
them. -/
def tokens : SelectorList → List Token
  | [] => []
  | [e] => e.tokens
  | e :: e' :: l => e.tokens ++ .comma :: .blank :: tokens (e' :: l)

def pieces : SelectorList → List Piece
  | [] => []
  | [e] => e.pieces
  | e :: e' :: l => e.pieces ++ .word .comma :: .word .blank :: pieces (e' :: l)

theorem grouped : ∀ l : SelectorList, Piece.Grouped (tokens l) (pieces l)
  | [] => .nil
  | [e] => e.grouped
  | e :: e' :: l => e.grouped.append
      (((Piece.Grouped.word (t := .comma) trivial).append (.word (t := .blank) trivial)).append
        (grouped (e' :: l)))

/-- A written list reads back, also behind the space that follows a comma. -/
theorem ofPieces?_append {gap : List Piece} (hgap : gap = [] ∨ gap = [.word .blank]) :
    ∀ (l : SelectorList) (_ : l ≠ []) (_ : ∀ e ∈ l, e.Writable),
      ofPieces? (gap ++ pieces l) = some l
  | [], hne, _ => absurd rfl hne
  | [e], _, hl => by
      have hentry := ofPieces?_entry hgap (hl e List.mem_cons_self)
      rw [ofPieces?, pieces, Piece.splitAtCommas_of_no_comma (not_comma hgap e), List.mapM_cons,
        hentry]
      rfl
  | e :: e' :: l, _, hl => by
      have hentry := ofPieces?_entry hgap (hl e List.mem_cons_self)
      have hrest : ofPieces? ([.word .blank] ++ pieces (e' :: l)) = some (e' :: l) :=
        ofPieces?_append (Or.inr rfl) (e' :: l) (by simp)
          fun d hd => hl d (List.mem_cons_of_mem _ hd)
      rw [ofPieces?, List.singleton_append] at hrest
      rw [ofPieces?, pieces, ← List.append_assoc, Piece.splitAtCommas_append (not_comma hgap e),
        List.mapM_cons, hentry, hrest]
      rfl
where
  ofPieces?_entry {gap : List Piece} (hgap : gap = [] ∨ gap = [.word .blank]) {e : Complex}
      (he : e.Writable) : Complex.ofPieces? (gap ++ e.pieces) = some e := by
    have htrim : Complex.ofPieces? (gap ++ e.pieces) = Complex.ofPieces? e.pieces := by
      rcases hgap with rfl | rfl
      · rfl
      · rw [Complex.ofPieces?_eq, Complex.ofPieces?_eq, List.singleton_append,
          Piece.trim_cons_blank]
    rw [htrim, Complex.ofPieces?_pieces he]
  not_comma {gap : List Piece} (hgap : gap = [] ∨ gap = [.word .blank]) (e : Complex) :
      ∀ p ∈ gap ++ e.pieces, p.isComma = false := by
    intro p hp
    rcases List.mem_append.mp hp with hp | hp
    · rcases hgap with rfl | rfl
      · cases hp
      · rw [List.mem_singleton.mp hp]
        rfl
    · exact e.not_comma p hp

/-- The pieces of a written list read as this list. -/
theorem ofPieces?_pieces {l : SelectorList} (hne : l ≠ []) (h : ∀ e ∈ l, e.Writable) :
    ofPieces? (pieces l) = some l :=
  ofPieces?_append (Or.inl rfl) l hne h

end SelectorList

end MarkupQuery.Css
