import MarkupQuery.Proofs.Css.Written

/-!
# Selectors written and read

The tokens of a writable selector are legible (`Complex.legible_tokens`), because a test ends in
front of whatever may follow one: another test, white space, a comma or the bracket that closes it
(`Boundary`). So a list of writable selectors reads back from its text
(`SelectorList.ofText?_text`).
-/

namespace MarkupQuery.Css

/-- What may follow a test: nothing, another test, white space, a comma, or a closing bracket. -/
def Boundary (next? : Option Char) : Prop :=
  ∀ c ∈ next?, c = ' ' ∨ c = '.' ∨ c = '#' ∨ c = '[' ∨ c = ':' ∨ c = ')' ∨ c = ','

theorem Boundary.some {c : Char}
    (h : c = ' ' ∨ c = '.' ∨ c = '#' ∨ c = '[' ∨ c = ':' ∨ c = ')' ∨ c = ',') :
    Boundary (some c) := by
  rintro d ⟨⟩
  exact h

theorem Boundary.stopsName {next? : Option Char} (h : Boundary next?) : Token.StopsName next? := by
  intro c hc
  rcases h c hc with rfl | rfl | rfl | rfl | rfl | rfl | rfl <;> decide

theorem Boundary.ne_equals {next? : Option Char} (h : Boundary next?) : ∀ c ∈ next?, c ≠ '=' := by
  intro c hc
  rcases h c hc with rfl | rfl | rfl | rfl | rfl | rfl | rfl <;> decide

instance (cs : List Char) : Decidable (IsName cs) := inferInstanceAs (Decidable (_ ∧ _))

/-- A name starts with none of the signs and spaces that other tokens look at. -/
theorem firstChar?_ident {n : String} (h : IsName n.toList) (ts : List Token)
    (next? : Option Char) :
    ∃ c, Token.firstChar? (.ident n :: ts) next? = some c ∧
      (isNameStart c = true ∨ c = '-' ∨ c = '\\') := by
  have hshape : NameShape (identifierText n.toList ++ []) := nameShape_identifierText h (by simp)
  rw [List.append_nil] at hshape
  have hfirst {c : Char} {cs : List Char} (he : identifierText n.toList = c :: cs) :
      Token.firstChar? (.ident n :: ts) next? = some c := by
    simp [Token.firstChar?, Token.text, he]
  generalize htext : identifierText n.toList = text at hshape
  cases hshape with
  | letter hc => exact ⟨_, hfirst htext, Or.inl hc⟩
  | escape => exact ⟨_, hfirst htext, Or.inr (Or.inr rfl)⟩
  | hyphenLetter => exact ⟨_, hfirst htext, Or.inr (Or.inl rfl)⟩
  | hyphenEscape => exact ⟨_, hfirst htext, Or.inr (Or.inl rfl)⟩
  | hyphens => exact ⟨_, hfirst htext, Or.inr (Or.inl rfl)⟩

/-- Behind a sign a name may follow. -/
theorem stops_delim_ident {n : String} (h : IsName n.toList) {c : Char} (hc : c ≠ '+')
    (ts : List Token) (next? : Option Char) :
    (Token.delim c).Stops (Token.firstChar? (.ident n :: ts) next?) := by
  obtain ⟨d, hd, hstart⟩ := firstChar?_ident h ts next?
  rw [hd]
  rintro e ⟨⟩
  have hdigit : d.isDigit = false ∧ d ≠ '=' := by
    rcases hstart with hs | rfl | rfl
    · refine ⟨isNameStart_ne_digit hs, ?_⟩
      rintro rfl
      exact absurd hs (by decide)
    · decide
    · decide
  rw [if_neg hc]
  split
  · exact hdigit.1
  · exact hdigit.2

theorem legible_closing {next? : Option Char} {b : Bracket} (hb : b ≠ .curly) :
    Token.Legible [.closing b] next? :=
  ⟨hb, trivial, trivial⟩

theorem Token.textOfAll_append (ts us : List Token) :
    Token.textOfAll (ts ++ us) = Token.textOfAll ts ++ Token.textOfAll us := by
  rw [textOfAll, textOfAll, textOfAll, List.flatMap_append, String.ofList_append]

/-! ### Tests on the name and on the attributes -/

theorem TypeTest.legible_tokens {t : TypeTest} (h : t.Writable) {next? : Option Char}
    (hn : Boundary next?) : Token.Legible t.tokens next? := by
  have hstar : (Token.delim '*').Writable := show _ ∈ Token.loneSigns by decide
  have hbar : (Token.delim '|').Writable := show _ ∈ Token.loneSigns by decide
  have hne := hn.ne_equals
  rcases t with _ | n | (_ | n)
  · exact ⟨hstar, hne, trivial⟩
  · exact ⟨h, hn.stopsName, trivial⟩
  · exact ⟨hbar, by rintro c ⟨⟩; decide, hstar, hne, trivial⟩
  · exact ⟨hbar, stops_delim_ident h (by decide) _ _, h, hn.stopsName, trivial⟩

theorem LetterCase.legible_tokens (l : LetterCase) : Token.Legible l.tokens (some ']') := by
  cases l with
  | byName => trivial
  | ignored =>
      refine ⟨trivial, ?_, show IsName _ by decide, ?_, trivial⟩ <;>
        · rintro c ⟨⟩
          decide
  | exact =>
      refine ⟨trivial, ?_, show IsName _ by decide, ?_, trivial⟩ <;>
        · rintro c ⟨⟩
          decide

theorem Operator.writable_token (o : Operator) : o.token.Writable := by
  cases o with
  | equals => exact show _ ∈ Token.loneSigns by decide
  | _ => exact show Token.isComparison _ = true by decide

theorem Comparison.legible_tokens {c : Comparison} (h : '\x00' ∉ c.value.toList) :
    Token.Legible c.tokens (some ']') := by
  refine ⟨c.operator.writable_token, ?_, h, trivial, c.letterCase.legible_tokens⟩
  cases c.operator with
  | equals =>
      rintro d ⟨⟩
      decide
  | _ => trivial

theorem Comparison.stopsName (c : Comparison) (next? : Option Char) :
    Token.StopsName (Token.firstChar? c.tokens next?) := by
  obtain ⟨op, value, letterCase⟩ := c
  cases op <;>
    · rintro d ⟨⟩
      decide

theorem AttributeTest.legible_inner {t : AttributeTest} (h : t.Writable) :
    Token.Legible t.innerTokens (some ']') := by
  obtain ⟨anySpace, name, comparison?⟩ := t
  obtain ⟨hname, hvalue⟩ := h
  -- behind the name comes a comparison or the bracket
  have hrest : Token.Legible (.ident name :: comparison?.elim [] Comparison.tokens) (some ']') := by
    cases comparison? with
    | none => exact ⟨hname, by rintro c ⟨⟩; decide, trivial⟩
    | some c => exact ⟨hname, c.stopsName _, Comparison.legible_tokens (hvalue c rfl)⟩
  cases anySpace with
  | false => exact hrest
  | true =>
      refine ⟨show _ ∈ Token.loneSigns by decide, ?_, show _ ∈ Token.loneSigns by decide,
        stops_delim_ident hname (by decide) _ _, hrest⟩
      rintro c ⟨⟩
      decide

theorem AttributeTest.legible_tokens {t : AttributeTest} (h : t.Writable) (next? : Option Char) :
    Token.Legible t.tokens next? := by
  rw [t.tokens_eq]
  show Token.Writable _ ∧ _ ∧ Token.Legible (t.innerTokens ++ [.closing .square]) next?
  exact ⟨by simp [Token.Writable], trivial,
    Token.legible_append.mpr ⟨t.legible_inner h, legible_closing (by decide)⟩⟩

/-! ### All tests -/

theorem PseudoClass.isName (c : PseudoClass) : IsName c.name.toList := by
  cases c <;> decide +kernel

theorem Counting.isName (c : Counting) : IsName c.name.toList := by
  obtain ⟨_ | _, _ | _⟩ := c <;> decide +kernel

/-- A call of a pseudo-class is legible if what stands between its brackets is. -/
theorem legible_call {name : String} (hname : IsName name.toList) {ts : List Token}
    (h : Token.Legible ts (some ')')) (next? : Option Char) :
    Token.Legible (.colon :: .function name :: ts ++ [.closing .round]) next? :=
  ⟨trivial, trivial, hname, trivial,
    Token.legible_append.mpr ⟨h, legible_closing (by decide)⟩⟩

/-- Every test starts with a sign that may follow a test. -/
theorem Simple.boundary_tokens (s : Simple) (ts : List Token) (next? : Option Char) :
    Boundary (Token.firstChar? (s.tokens ++ ts) next?) := by
  cases s <;> exact Boundary.some (by decide)

theorem Simple.boundary_tokensOfAll (ss : List Simple) {next? : Option Char} (hn : Boundary next?) :
    Boundary (Token.firstChar? (Simple.tokensOfAll ss) next?) := by
  cases ss with
  | nil => exact hn
  | cons s ss => exact s.boundary_tokens _ next?

mutual

theorem Simple.legible_tokens : ∀ (s : Simple) (_ : s.Writable) {next? : Option Char}
    (_ : Boundary next?), Token.Legible s.tokens next?
  | .id n, h, next?, hn => by
      rw [Simple.Writable] at h
      rw [Simple.tokens]
      exact ⟨h, hn.stopsName, trivial⟩
  | .hasClass n, h, next?, hn => by
      rw [Simple.Writable] at h
      rw [Simple.tokens]
      exact ⟨show _ ∈ Token.loneSigns by decide, stops_delim_ident h (by decide) _ _, h,
        hn.stopsName, trivial⟩
  | .attr t, h, next?, _ => by
      rw [Simple.Writable] at h
      rw [Simple.tokens]
      exact t.legible_tokens h next?
  | .pseudo c, _, next?, hn => by
      rw [Simple.tokens]
      exact ⟨trivial, trivial, c.isName, hn.stopsName, trivial⟩
  | .position c s, _, next?, _ => by
      rw [Simple.tokens]
      exact legible_call c.isName s.legible_tokens next?
  | .notType t, h, next?, _ => by
      rw [Simple.Writable] at h
      rw [Simple.tokens]
      exact legible_call (by decide) (t.legible_tokens h (.some (by decide))) next?
  | .not s, h, next?, _ => by
      rw [Simple.Writable] at h
      rw [Simple.tokens]
      exact legible_call (by decide) (s.legible_tokens h.2 (.some (by decide))) next?
  | .host k, h, next?, _ => by
      rw [Simple.Writable] at h
      rw [Simple.tokens]
      exact legible_call (by decide) (k.legible_tokens h (.some (by decide))) next?

theorem Compound.legible_tokens : ∀ (k : Compound) (_ : k.Writable) {next? : Option Char}
    (_ : Boundary next?), Token.Legible k.tokens next?
  | ⟨t, ss⟩, h, next?, hn => by
      rw [Compound.Writable] at h
      have hall := Simple.legible_tokensOfAll ss h.2 hn
      rcases Compound.cases_pieces ⟨t, ss⟩ with ⟨s, ss', hk, ht, -⟩ | ⟨ht, -⟩
      · cases hk
        rw [ht]
        exact hall
      · rw [ht]
        exact Token.legible_append.mpr
          ⟨t.legible_tokens h.1 (Simple.boundary_tokensOfAll ss hn), hall⟩

theorem Simple.legible_tokensOfAll : ∀ (ss : List Simple) (_ : Simple.AllWritable ss)
    {next? : Option Char} (_ : Boundary next?), Token.Legible (Simple.tokensOfAll ss) next?
  | [], _, _, _ => by
      rw [Simple.tokensOfAll]
      trivial
  | s :: ss, h, next?, hn => by
      rw [Simple.AllWritable] at h
      rw [Simple.tokensOfAll]
      exact Token.legible_append.mpr
        ⟨s.legible_tokens h.1 (Simple.boundary_tokensOfAll ss hn),
          Simple.legible_tokensOfAll ss h.2 hn⟩

end

/-! ### Selectors -/

/-- What is written starts with no white space. -/
def StartsSolid (next? : Option Char) : Prop := ∃ c, next? = some c ∧ isSpace c = false

theorem Simple.startsSolid (s : Simple) (ts : List Token) (next? : Option Char) :
    StartsSolid (Token.firstChar? (s.tokens ++ ts) next?) := by
  cases s <;> exact ⟨_, rfl, by decide⟩

theorem TypeTest.startsSolid {t : TypeTest} (h : t.Writable) (ts : List Token)
    (next? : Option Char) : StartsSolid (Token.firstChar? (t.tokens ++ ts) next?) := by
  rcases t with _ | n | (_ | n)
  · exact ⟨'*', rfl, by decide⟩
  · obtain ⟨c, hc, hstart⟩ := firstChar?_ident h ts next?
    refine ⟨c, hc, ?_⟩
    rcases hstart with hs | rfl | rfl
    · have hvalue := isValueSpace_of_isNameChar (isNameChar_of_isNameStart hs)
      rw [isValueSpace, Bool.or_eq_false_iff, Bool.or_eq_false_iff] at hvalue
      exact hvalue.1.1
    · decide
    · decide
  · exact ⟨'|', rfl, by decide⟩
  · exact ⟨'|', rfl, by decide⟩

theorem Compound.startsSolid {k : Compound} (h : k.Writable) (ts : List Token)
    (next? : Option Char) : StartsSolid (Token.firstChar? (k.tokens ++ ts) next?) := by
  obtain ⟨t, ss⟩ := k
  rw [Compound.Writable] at h
  rcases Compound.cases_pieces ⟨t, ss⟩ with ⟨s, ss', -, ht, -⟩ | ⟨ht, -⟩
  · rw [ht, Simple.tokensOfAll, List.append_assoc]
    exact s.startsSolid _ next?
  · rw [ht, List.append_assoc]
    exact TypeTest.startsSolid h.1 _ next?

theorem Combinator.legible_tokens (c : Combinator) {next? : Option Char} (h : StartsSolid next?) :
    Token.Legible c.tokens next? := by
  obtain ⟨d, rfl, hd⟩ := h
  -- a sign stands between two blanks, and the second one ends in front of the next compound
  have hblank : Token.Legible [.blank] (some d) := ⟨trivial, by rintro e ⟨⟩; exact hd, trivial⟩
  have hsign {s : Char} (hs : s ∈ Token.loneSigns)
      (hstop : (Token.delim s).Stops (some ' ')) (hsolid : isSpace s = false) :
      Token.Legible [.blank, .delim s, .blank] (some d) :=
    ⟨trivial, by rintro e ⟨⟩; exact hsolid, hs, hstop, hblank⟩
  cases c with
  | child => exact hsign (by decide) (by rintro e ⟨⟩; decide) (by decide)
  | descendant => exact hblank
  | next => exact hsign (by decide) (by rintro e ⟨⟩; decide) (by decide)
  | later => exact hsign (by decide) (by rintro e ⟨⟩; decide) (by decide)

theorem Combinator.boundary_tokens (c : Combinator) (next? : Option Char) :
    Boundary (Token.firstChar? c.tokens next?) := by
  cases c <;> exact Boundary.some (by decide)

namespace Complex

theorem legible_leftTokens (left : List (Combinator × Compound))
    (h : ∀ step ∈ left, step.2.Writable) {next? : Option Char} (hn : StartsSolid next?) :
    Token.Legible (leftTokens left) next? := by
  induction left generalizing next? with
  | nil => trivial
  | cons step left ih =>
      obtain ⟨c, k⟩ := step
      have hk : k.Writable := h _ List.mem_cons_self
      rw [leftTokens, List.append_assoc, Token.legible_append, Token.legible_append]
      refine ⟨ih (fun s hs => h s (List.mem_cons_of_mem _ hs)) (Compound.startsSolid hk _ _),
        k.legible_tokens hk (c.boundary_tokens _), c.legible_tokens hn⟩

theorem legible_tokens {e : Complex} (h : e.Writable) {next? : Option Char} (hn : Boundary next?) :
    Token.Legible e.tokens next? := by
  have hsolid := Compound.startsSolid h.1 [] next?
  rw [List.append_nil] at hsolid
  exact Token.legible_append.mpr
    ⟨legible_leftTokens e.left h.2 hsolid, e.subject.legible_tokens h.1 hn⟩

theorem startsSolid {e : Complex} (h : e.Writable) (ts : List Token) (next? : Option Char) :
    StartsSolid (Token.firstChar? (e.tokens ++ ts) next?) := by
  obtain ⟨subject, left⟩ := e
  obtain ⟨hsubject, hleft⟩ := h
  induction left generalizing subject ts with
  | nil => exact Compound.startsSolid hsubject ts next?
  | cons step left ih =>
      obtain ⟨c, k⟩ := step
      have := ih (c.tokens ++ subject.tokens ++ ts) k (hleft _ List.mem_cons_self)
        fun s hs => hleft s (List.mem_cons_of_mem _ hs)
      simpa [tokens, leftTokens] using this

end Complex

namespace SelectorList

theorem legible_tokens : ∀ (l : SelectorList) (_ : ∀ e ∈ l, e.Writable),
    Token.Legible (tokens l) none
  | [], _ => trivial
  | [e], h => Complex.legible_tokens (h e List.mem_cons_self) (by rintro c ⟨⟩)
  | e :: e' :: l, h => by
      have he' : e'.Writable := h e' (by simp)
      have hrest := legible_tokens (e' :: l) fun d hd => h d (List.mem_cons_of_mem _ hd)
      have hsolid : StartsSolid (Token.firstChar? (tokens (e' :: l)) none) := by
        cases l with
        | nil =>
            have := Complex.startsSolid he' [] none
            rwa [List.append_nil] at this
        | cons e'' l => exact Complex.startsSolid he' _ none
      obtain ⟨c, hc, hspace⟩ := hsolid
      refine Token.legible_append.mpr
        ⟨Complex.legible_tokens (h e List.mem_cons_self) (.some (by decide)), trivial, trivial,
          trivial, ?_, hrest⟩
      rw [hc]
      rintro d ⟨⟩
      exact hspace

theorem textOfAll_tokens : ∀ l : SelectorList,
    Token.textOfAll (tokens l) = ", ".intercalate (l.map Complex.text)
  | [] => rfl
  | [e] => by
      rw [List.map_singleton, String.intercalate_singleton, tokens, Complex.text]
  | e :: e' :: l => by
      have hsep : Token.textOfAll (.comma :: .blank :: tokens (e' :: l)) =
          ", " ++ Token.textOfAll (tokens (e' :: l)) :=
        Token.textOfAll_append [.comma, .blank] _
      rw [List.map_cons, List.map_cons, String.intercalate_cons_cons, tokens,
        Token.textOfAll_append, hsep, textOfAll_tokens (e' :: l), List.map_cons,
        String.append_assoc]
      rfl

/-- A list of writable selectors reads back from its text. -/
theorem ofText?_text {l : SelectorList} (hne : l ≠ []) (h : ∀ e ∈ l, e.Writable) :
    ofText? (", ".intercalate (l.map Complex.text)) = some l := by
  rw [← textOfAll_tokens, ofText?, Token.scan_textOfAll (legible_tokens l h),
    (grouped l).ofTokens_eq, ofPieces?_pieces hne h]

end SelectorList

/-- A writable selector reads back from its text, as the only entry. -/
theorem Complex.ofText?_text {e : Complex} (h : e.Writable) :
    SelectorList.ofText? e.text = some [e] := by
  have hlist : ∀ d ∈ [e], d.Writable := by simpa using h
  have := SelectorList.ofText?_text (List.cons_ne_nil e []) hlist
  rwa [List.map_singleton, String.intercalate_singleton] at this

theorem Compound.writable_named {n : String} (h : IsName n.toList) :
    Compound.Writable ⟨.named n, []⟩ := by
  rw [Compound.Writable, Simple.AllWritable]
  exact ⟨h, trivial⟩

/-! ### Anchored selectors -/

def Compound.ofClass (name : String) : Compound := ⟨.any, [.hasClass name]⟩

theorem Compound.writable_ofClass {name : String} (h : IsName name.toList) :
    (Compound.ofClass name).Writable := by
  rw [ofClass, Compound.Writable, Simple.AllWritable, Simple.AllWritable, Simple.Writable]
  exact ⟨trivial, h, trivial⟩

theorem Compound.tokens_ofClass (name : String) :
    (Compound.ofClass name).tokens = [.delim '.', .ident name] := by
  simp [ofClass, Compound.tokens, Simple.tokensOfAll, Simple.tokens]

/-- A plain class is written as it is, behind a point. -/
theorem Compound.textOfAll_ofClass {name : String} (h : IsPlain name) :
    Token.textOfAll (Compound.ofClass name).tokens = "." ++ name := by
  apply String.toList_inj.mp
  simp [tokens_ofClass, Token.textOfAll, Token.text, identifierText_of_isPlain h]

namespace Complex

theorem Writable.anchor {e : Complex} (h : e.Writable) {k : Compound} (hk : k.Writable)
    (via : Combinator) : (e.anchor via k).Writable := by
  refine ⟨h.1, ?_⟩
  intro step hstep
  rcases List.mem_append.mp hstep with hstep | hstep
  · exact h.2 step hstep
  · rw [List.mem_singleton.mp hstep]
    exact hk

theorem leftTokens_append (left : List (Combinator × Compound)) (via : Combinator) (k : Compound) :
    leftTokens (left ++ [(via, k)]) = k.tokens ++ via.tokens ++ leftTokens left := by
  induction left with
  | nil => simp [leftTokens]
  | cons step left ih =>
      obtain ⟨c, k'⟩ := step
      simp [leftTokens, ih]

/-- Behind a plain class an anchored selector is written as it is written alone. -/
theorem text_anchor_ofClass (e : Complex) {mark : String} (h : IsPlain mark) :
    (e.anchor .child (.ofClass mark)).text = "." ++ mark ++ " > " ++ e.text := by
  have hgap : Token.textOfAll Combinator.child.tokens = " > " := rfl
  have htokens : (e.anchor .child (.ofClass mark)).tokens =
      (Compound.ofClass mark).tokens ++ Combinator.child.tokens ++ e.tokens := by
    simp [tokens, anchor, leftTokens_append]
  rw [text, htokens, Token.textOfAll_append, Token.textOfAll_append,
    Compound.textOfAll_ofClass h, hgap, text]

end Complex

end MarkupQuery.Css
