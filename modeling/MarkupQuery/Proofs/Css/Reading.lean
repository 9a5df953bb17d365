import MarkupQuery.Proofs.Css.Written

/-!
# What is read can be written

Every selector that the reader makes of a text is writable (`SelectorList.writable_of_ofText?`). A
settled text has no null character, no escape writes one, and where a text starts with a name there
is one: so all words of a text are proper (`Token.isProper_of_mem_scan`), and the reader puts
nothing into a selector that is not in the words.
-/

namespace MarkupQuery.Css

/-! ### Names -/

theorem not_mem_normalize (cs : List Char) : '\x00' ∉ normalize cs := by
  fun_induction normalize cs with
  | case1 cs ih => simp [ih]
  | case2 c cs _ ih =>
      rw [List.mem_cons, not_or]
      refine ⟨?_, ih⟩
      split
      · decide
      · split
        · decide
        · rename_i h
          exact Ne.symm h
  | case3 => simp

theorem dropOneSpace_subset (cs : List Char) : dropOneSpace cs ⊆ cs := by
  cases cs with
  | nil => simp [dropOneSpace]
  | cons c cs =>
      rw [dropOneSpace]
      split
      · exact List.subset_cons_self c cs
      · exact List.Subset.refl _

theorem takeEscape_subset (cs : List Char) : (takeEscape cs).2 ⊆ cs := by
  cases cs with
  | nil => simp [takeEscape]
  | cons c cs =>
      rw [takeEscape]
      split
      · intro d hd
        exact List.mem_cons_of_mem _ (List.mem_of_mem_drop (dropOneSpace_subset _ hd))
      · exact List.subset_cons_self c cs

theorem charOfCode_ne (n : Nat) : charOfCode n ≠ '\x00' := by
  rw [charOfCode]
  split
  · decide
  · rename_i h
    rw [not_or, not_not] at h
    intro e
    have htoNat : (Char.ofNat n).toNat = n := by
      rw [Char.ofNat, dif_pos h.2]
      rfl
    rw [e] at htoNat
    exact h.1 htoNat.symm

theorem takeEscape_ne {cs : List Char} (h : '\x00' ∉ cs) : (takeEscape cs).1 ≠ '\x00' := by
  cases cs with
  | nil => decide
  | cons c cs =>
      rw [takeEscape]
      split
      · exact charOfCode_ne _
      · rintro rfl
        exact h List.mem_cons_self

theorem takeName_subset (cs : List Char) : (takeName cs).2 ⊆ cs := by
  fun_induction takeName cs with
  | case1 => simp
  | case2 => simp
  | case3 =>
      rename_i cs _ e n ih
      exact List.Subset.trans ih
        (List.Subset.trans (takeEscape_subset cs) (List.subset_cons_self _ _))
  | case4 =>
      rename_i c cs _ _ n ih
      exact List.Subset.trans ih (List.subset_cons_self _ _)
  | case5 => simp

theorem not_mem_takeName {cs : List Char} (h : '\x00' ∉ cs) : '\x00' ∉ (takeName cs).1 := by
  fun_induction takeName cs with
  | case1 => simp
  | case2 => simp
  | case3 =>
      rename_i cs _ e n ih
      have hcs : '\x00' ∉ cs := fun hm => h (List.mem_cons_of_mem _ hm)
      rw [List.mem_cons, not_or]
      exact ⟨Ne.symm (takeEscape_ne hcs), ih fun hm => hcs (takeEscape_subset cs hm)⟩
  | case4 =>
      rename_i c cs _ _ n ih
      rw [List.mem_cons, not_or] at h ⊢
      exact ⟨h.1, ih h.2⟩
  | case5 => simp

/-- Where a text starts with a name, there is one. -/
theorem isName_takeName {cs : List Char} (hstart : startsName cs = true) (h : '\x00' ∉ cs) :
    IsName (takeName cs).1 := by
  refine ⟨?_, not_mem_takeName h⟩
  have plain {c : Char} {ds : List Char} (hc : isNameChar c = true) :
      (takeName (c :: ds)).1 ≠ [] := by
    rw [takeName_nameChar hc]
    simp
  unfold startsName at hstart
  split at hstart
  · exact plain (by decide)
  · exact plain (by decide)
  · rename_i ds
    have hline : ¬ ds.head? = some '\n' := by simpa using hstart
    rw [takeName, if_pos rfl, if_neg hline]
    simp
  · exact plain (isNameChar_of_isNameStart hstart)
  · cases hstart

namespace Token

/-! ### Words -/

theorem dropComment_subset (cs : List Char) : dropComment cs ⊆ cs := by
  fun_induction dropComment cs with
  | case1 cs => exact fun c hc => List.mem_cons_of_mem _ (List.mem_cons_of_mem _ hc)
  | case2 c cs _ ih => exact List.Subset.trans ih (List.subset_cons_self _ _)
  | case3 => simp

theorem takeQuoted_subset (quote : Char) (cs : List Char) : (takeQuoted quote cs).2 ⊆ cs := by
  fun_induction takeQuoted quote cs with
  | case1 => simp
  | case2 => exact List.subset_cons_self _ _
  | case3 => simp
  | case4 => simp
  | case5 =>
      rename_i ds _ _ ih
      exact List.Subset.trans ih (fun c hc => List.mem_cons_of_mem _ (List.mem_cons_of_mem _ hc))
  | case6 =>
      rename_i d ds _ e s _ _ ih
      exact List.Subset.trans ih
        (List.Subset.trans (takeEscape_subset _) (List.subset_cons_self _ _))
  | case7 =>
      rename_i d ds _ _ _ s ih
      exact List.Subset.trans ih (List.subset_cons_self _ _)

theorem not_mem_takeQuoted {quote : Char} {cs : List Char} (h : '\x00' ∉ cs) :
    ∀ q ∈ (takeQuoted quote cs).1, '\x00' ∉ q := by
  have cons {c : Char} {s : Option (List Char)} (hc : c ≠ '\x00') (hs : ∀ q ∈ s, '\x00' ∉ q) :
      ∀ q ∈ s.map (c :: ·), '\x00' ∉ q := by
    intro q hq
    obtain ⟨r, hr, rfl⟩ := Option.map_eq_some_iff.mp hq
    rw [List.mem_cons, not_or]
    exact ⟨Ne.symm hc, hs r hr⟩
  fun_induction takeQuoted quote cs with
  | case1 => simp
  | case2 => simp
  | case3 => simp
  | case4 => simp
  | case5 =>
      rename_i ds _ _ ih
      exact ih fun hm => h (List.mem_cons_of_mem _ (List.mem_cons_of_mem _ hm))
  | case6 =>
      rename_i d ds _ e s _ _ ih
      have hds : '\x00' ∉ d :: ds := fun hm => h (List.mem_cons_of_mem _ hm)
      exact cons (takeEscape_ne hds) (ih fun hm => hds (takeEscape_subset _ hm))
  | case7 =>
      rename_i d ds _ _ _ s ih
      rw [List.mem_cons, not_or] at h
      exact cons (Ne.symm h.1) (ih h.2)

theorem dropWhile_subset (p : Char → Bool) (cs : List Char) : cs.dropWhile p ⊆ cs :=
  (List.dropWhile_sublist p).subset

theorem dropFraction_subset (cs : List Char) : dropFraction cs ⊆ cs := by
  unfold dropFraction
  split
  · split
    · intro c hc
      exact List.mem_cons_of_mem _ (List.mem_cons_of_mem _ (dropWhile_subset _ _ hc))
    · exact List.Subset.refl _
  · exact List.Subset.refl _

theorem dropExponent_subset (cs : List Char) : dropExponent cs ⊆ cs := by
  unfold dropExponent
  split
  · rename_i e s cs
    have hdigits : cs.dropWhile Char.isDigit ⊆ e :: s :: cs := fun c hc =>
      List.mem_cons_of_mem _ (List.mem_cons_of_mem _ (dropWhile_subset _ _ hc))
    repeat' split
    all_goals first | exact hdigits | exact List.Subset.refl _
  · exact List.Subset.refl _

theorem takeNumeral_subset (cs : List Char) : (takeNumeral cs).2 ⊆ cs := by
  have hbody (ds : List Char) : dropExponent (dropFraction (ds.dropWhile Char.isDigit)) ⊆ ds :=
    List.Subset.trans (dropExponent_subset _)
      (List.Subset.trans (dropFraction_subset _) (dropWhile_subset _ _))
  rw [takeNumeral]
  refine List.Subset.trans (hbody _) ?_
  split
  · exact fun c hc => List.mem_of_mem_drop hc
  · exact List.Subset.refl _

/-- A number without a sign is not negative. -/
theorem isProper_takeNumeral (cs : List Char) : (number (takeNumeral cs).1).IsProper := by
  intro v hv hsigned
  have hnegative : (cs.head? == some '-') = false := (Bool.or_eq_false_iff.mp hsigned).2
  simp only [takeNumeral, hnegative] at hv
  obtain ⟨-, hvalue⟩ := Option.ite_none_right_eq_some.mp hv
  obtain rfl := Option.some.inj hvalue
  simp

theorem nextSign_subset (c : Char) (cs : List Char) : (nextSign c cs).2 ⊆ cs := by
  simp only [nextSign]
  repeat' split
  · exact takeName_subset cs
  · exact takeName_subset cs
  · exact fun d hd => List.mem_of_mem_drop hd
  · exact fun d hd => List.mem_of_mem_drop hd
  · exact List.Subset.refl _

theorem isProper_nextSign {c : Char} {cs : List Char} (h : '\x00' ∉ cs) :
    (nextSign c cs).1.IsProper := by
  unfold nextSign
  split
  · rename_i hc
    show IsName (String.ofList _).toList
    rw [String.toList_ofList]
    exact isName_takeName hc.2 h
  · repeat' split
    · trivial
    · trivial
    · trivial
    · unfold ofChar
      split <;> trivial

theorem nextNumeric_subset (cs : List Char) : (nextNumeric cs).2 ⊆ cs := by
  simp only [nextNumeric]
  split
  · exact fun c hc => takeNumeral_subset cs (List.mem_of_mem_drop hc)
  · split
    · exact List.Subset.trans (takeName_subset _) (takeNumeral_subset cs)
    · exact takeNumeral_subset cs

theorem isProper_nextNumeric (cs : List Char) : (nextNumeric cs).1.IsProper := by
  simp only [nextNumeric]
  split
  · trivial
  · split
    · trivial
    · exact isProper_takeNumeral cs

theorem nextName_subset (cs : List Char) : (nextName cs).2 ⊆ cs := by
  simp only [nextName]
  split
  · exact fun c hc => takeName_subset cs (List.mem_of_mem_drop hc)
  · exact takeName_subset cs

theorem isProper_nextName {cs : List Char} (hstart : startsName cs = true) (h : '\x00' ∉ cs) :
    (nextName cs).1.IsProper := by
  simp only [nextName]
  split
  · trivial
  · show IsName (String.ofList _).toList
    rw [String.toList_ofList]
    exact isName_takeName hstart h

theorem nextQuoted_subset (quote : Char) (cs : List Char) : (nextQuoted quote cs).2 ⊆ cs :=
  takeQuoted_subset quote cs

theorem isProper_nextQuoted {quote : Char} {cs : List Char} (h : '\x00' ∉ cs) :
    (nextQuoted quote cs).1.IsProper := by
  simp only [nextQuoted]
  split
  · rename_i q hq
    show '\x00' ∉ (String.ofList q).toList
    rw [String.toList_ofList]
    exact not_mem_takeQuoted h q hq
  · trivial

/-- Behind a token comes a part of what came behind its first character. -/
theorem next_subset (c : Char) (cs : List Char) : (next c cs).2 ⊆ c :: cs := by
  have tail {ds : List Char} (h : ds ⊆ cs) : ds ⊆ c :: cs :=
    List.Subset.trans h (List.subset_cons_self _ _)
  unfold next
  repeat' split
  · exact tail (dropWhile_subset _ _)
  · exact tail (nextQuoted_subset _ _)
  · exact nextNumeric_subset _
  · exact tail fun d hd => List.mem_of_mem_drop hd
  · exact nextName_subset _
  · exact tail (nextSign_subset _ _)

theorem isProper_next {c : Char} {cs : List Char} (h : '\x00' ∉ c :: cs) :
    (next c cs).1.IsProper := by
  have hcs : '\x00' ∉ cs := fun hm => h (List.mem_cons_of_mem _ hm)
  unfold next
  split
  · trivial
  · split
    · exact isProper_nextQuoted hcs
    · split
      · exact isProper_nextNumeric _
      · split
        · trivial
        · split
          · rename_i hstart
            exact isProper_nextName hstart h
          · exact isProper_nextSign hcs

theorem isProper_of_mem_scanNormal {cs : List Char} (h : '\x00' ∉ cs) :
    ∀ t ∈ scanNormal cs, t.IsProper := by
  fun_induction scanNormal cs with
  | case1 => simp
  | case2 =>
      rename_i cs _ ih
      refine ih fun hm => h (List.mem_cons_of_mem _ ?_)
      exact List.mem_of_mem_drop (dropComment_subset _ hm)
  | case3 =>
      rename_i c cs _ ih
      intro t ht
      rcases List.mem_cons.mp ht with rfl | ht
      · exact isProper_next h
      · exact ih (fun hm => h (next_subset c cs hm)) t ht

/-- All words of a text are proper. -/
theorem isProper_of_mem_scan (text : String) : ∀ t ∈ scan text, t.IsProper :=
  isProper_of_mem_scanNormal (not_mem_normalize _)

end Token

/-! ### Selectors -/

def AllProper (ps : List Piece) : Prop := ∀ p ∈ ps, p.Holds Token.IsProper

namespace AllProper

theorem tail {p : Piece} {ps : List Piece} (h : AllProper (p :: ps)) : AllProper ps :=
  fun q hq => h q (List.mem_cons_of_mem _ hq)

theorem word {t : Token} {ps : List Piece} (h : AllProper (.word t :: ps)) : t.IsProper :=
  (h _ List.mem_cons_self).of_word

theorem block {b : Bracket} {inner ps : List Piece} (h : AllProper (.block b inner :: ps)) :
    AllProper inner := by
  cases h _ List.mem_cons_self
  assumption

theorem call {n : String} {inner ps : List Piece} (h : AllProper (.call n inner :: ps)) :
    AllProper inner := by
  cases h _ List.mem_cons_self
  assumption

theorem trimStart {ps : List Piece} (h : AllProper ps) : AllProper (Piece.trimStart ps) :=
  fun p hp => h p (Piece.mem_of_mem_trimStart hp)

end AllProper

namespace AttributeTest

theorem not_mem_of_value? {t : Token} (ht : t.IsProper) {v : String} (h : value? t = some v) :
    '\x00' ∉ v.toList := by
  cases t with
  | ident n =>
      obtain rfl := Option.some.inj h
      exact ht.2
  | quoted q =>
      obtain rfl := Option.some.inj h
      exact ht
  | _ => cases h

theorem not_mem_of_afterName? {ps : List Piece} (hps : AllProper ps) {c? : Option Comparison}
    (h : afterName? ps = some c?) : ∀ c ∈ c?, '\x00' ∉ c.value.toList := by
  have htrim := hps.trimStart
  unfold afterName? at h
  split at h
  · obtain rfl := Option.some.inj h
    simp
  · rename_i t rest heq
    rw [heq] at htrim
    have hrest := htrim.tail.trimStart
    obtain ⟨o, -, h⟩ := Option.bind_eq_some_iff.mp h
    split at h
    · rename_i v rest' heq'
      rw [heq'] at hrest
      obtain ⟨value, hvalue, h⟩ := Option.bind_eq_some_iff.mp h
      obtain ⟨letterCase, -, h⟩ := Option.bind_eq_some_iff.mp h
      obtain rfl := Option.some.inj h
      rintro c ⟨⟩
      exact not_mem_of_value? hrest.word hvalue
    · cases h
  · cases h

theorem writable_of_ofPieces? {ps : List Piece} (hps : AllProper ps) {t : AttributeTest}
    (h : ofPieces? ps = some t) : t.Writable := by
  unfold ofPieces? at h
  split at h
  · obtain ⟨c?, hc, rfl⟩ := Option.map_eq_some_iff.mp h
    exact ⟨hps.tail.tail.word, not_mem_of_afterName? hps.tail.tail.tail hc⟩
  · obtain ⟨c?, hc, rfl⟩ := Option.map_eq_some_iff.mp h
    exact ⟨hps.tail.word, not_mem_of_afterName? hps.tail.tail hc⟩
  · cases h
  · obtain ⟨c?, hc, rfl⟩ := Option.map_eq_some_iff.mp h
    exact ⟨hps.word, not_mem_of_afterName? hps.tail hc⟩
  · cases h

end AttributeTest

theorem Compound.writable_of_negated? {inner : List Piece} {k : Compound} (hk : k.Writable)
    {s : Simple} (h : k.negated? inner = some s) : s.Writable := by
  obtain ⟨t, ss⟩ := k
  rw [Compound.Writable] at hk
  unfold negated? at h
  split at h
  · obtain rfl := Option.some.inj h
    rw [Simple.Writable]
    exact hk.1
  · rename_i s' heq
    obtain rfl : ss = [s'] := heq
    obtain ⟨hneg, h⟩ := Option.ite_none_right_eq_some.mp h
    obtain rfl := Option.some.inj h
    rw [Simple.AllWritable] at hk
    rw [Bool.and_eq_true] at hneg
    rw [Simple.Writable]
    exact ⟨hneg.2, hk.2.1⟩
  · cases h

/-- What follows a test on the name makes a writable compound with it. -/
theorem Compound.writable_of_map {t : TypeTest} (ht : t.Writable) {ss? : Option (List Simple)}
    (hss : ∀ ss ∈ ss?, Simple.AllWritable ss) {k : Compound} (h : ss?.map (⟨t, ·⟩) = some k) :
    k.Writable := by
  obtain ⟨ss, hmem, rfl⟩ := Option.map_eq_some_iff.mp h
  rw [Compound.Writable]
  exact ⟨ht, hss ss hmem⟩

theorem Simple.allWritable_of_map {s : Simple} (hs : s.Writable) {ss? : Option (List Simple)}
    (hss : ∀ ss ∈ ss?, Simple.AllWritable ss) {ss : List Simple} (h : ss?.map (s :: ·) = some ss) :
    Simple.AllWritable ss := by
  obtain ⟨rest, hmem, rfl⟩ := Option.map_eq_some_iff.mp h
  rw [Simple.AllWritable]
  exact ⟨hs, hss rest hmem⟩

/-- Whatever compound and whatever tests are read of proper pieces are writable. -/
theorem writable_of_reading :
    (∀ ps, AllProper ps → ∀ k ∈ Compound.ofPieces? ps, k.Writable) ∧
      ∀ ps, AllProper ps → ∀ ss ∈ Simple.allOfPieces? ps, Simple.AllWritable ss := by
  -- the two readers call each other, so the cases are theirs: first how a compound starts, then
  -- what its next test is
  refine Compound.ofPieces?.mutual_induct
    (fun ps => AllProper ps → ∀ k ∈ Compound.ofPieces? ps, k.Writable)
    (fun ps => AllProper ps → ∀ ss ∈ Simple.allOfPieces? ps, Simple.AllWritable ss)
    ?empty ?foreign ?named ?anyOfAny ?namedOfAny ?any ?anyOfNone ?namedOfNone ?untyped
    ?done ?id ?hasClass ?attr ?pseudo ?not ?host ?position ?other
  case empty =>
    intro _ k hk
    rw [Compound.ofPieces?] at hk
    cases hk
  case foreign =>
    intro name rest _ k hk
    rw [Compound.ofPieces?] at hk
    cases hk
  case named =>
    intro n rest hbar ih hps k hk
    rw [Compound.ofPieces?] at hk
    · exact Compound.writable_of_map (t := .named n) hps.word (ih hps.tail) hk
    · exact hbar
  case anyOfAny =>
    intro rest ih hps k hk
    rw [Compound.ofPieces?] at hk
    exact Compound.writable_of_map (t := .any) trivial (ih hps.tail.tail.tail) hk
  case namedOfAny =>
    intro n rest ih hps k hk
    rw [Compound.ofPieces?] at hk
    exact Compound.writable_of_map (t := .named n) hps.tail.tail.word (ih hps.tail.tail.tail) hk
  case any =>
    intro rest hany hnamed ih hps k hk
    rw [Compound.ofPieces?] at hk
    · exact Compound.writable_of_map (t := .any) trivial (ih hps.tail) hk
    · exact hany
    · exact hnamed
  case anyOfNone =>
    intro rest ih hps k hk
    rw [Compound.ofPieces?] at hk
    exact Compound.writable_of_map (t := .bare none) trivial (ih hps.tail.tail) hk
  case namedOfNone =>
    intro n rest ih hps k hk
    rw [Compound.ofPieces?] at hk
    exact Compound.writable_of_map (t := .bare (some n)) hps.tail.word (ih hps.tail.tail) hk
  case untyped =>
    intro p rest h1 h2 h3 h4 h5 h6 h7 ih hps k hk
    rw [Compound.ofPieces?] at hk
    · obtain ⟨ss, hss, hk⟩ := Option.bind_eq_some_iff.mp hk
      obtain rfl := Option.some.inj hk
      rw [Compound.Writable]
      exact ⟨trivial, ih hps ss hss⟩
    all_goals assumption
  case done =>
    intro _ ss hss
    rw [Simple.allOfPieces?] at hss
    obtain rfl := Option.some.inj hss
    rw [Simple.AllWritable]
    trivial
  case id =>
    intro n rest ih hps ss hss
    rw [Simple.allOfPieces?] at hss
    have hs : (Simple.id n).Writable := by
      rw [Simple.Writable]
      exact hps.word
    exact Simple.allWritable_of_map hs (ih hps.tail) hss
  case hasClass =>
    intro n rest ih hps ss hss
    rw [Simple.allOfPieces?] at hss
    have hs : (Simple.hasClass n).Writable := by
      rw [Simple.Writable]
      exact hps.tail.word
    exact Simple.allWritable_of_map hs (ih hps.tail.tail) hss
  case attr =>
    intro inner rest ih hps ss hss
    rw [Simple.allOfPieces?] at hss
    obtain ⟨t, ht, hss⟩ := Option.bind_eq_some_iff.mp hss
    have hs : (Simple.attr t).Writable := by
      rw [Simple.Writable]
      exact AttributeTest.writable_of_ofPieces? hps.block ht
    exact Simple.allWritable_of_map hs (ih hps.tail) hss
  case pseudo =>
    intro n rest ih hps ss hss
    rw [Simple.allOfPieces?] at hss
    obtain ⟨c, -, hss⟩ := Option.bind_eq_some_iff.mp hss
    have hs : (Simple.pseudo c).Writable := by
      rw [Simple.Writable]
      trivial
    exact Simple.allWritable_of_map hs (ih hps.tail.tail) hss
  case not =>
    intro name inner rest hname ih ihinner hps ss hss
    rw [Simple.allOfPieces?, if_pos hname] at hss
    obtain ⟨k, hk, hss⟩ := Option.bind_eq_some_iff.mp hss
    obtain ⟨s, hs, hss⟩ := Option.bind_eq_some_iff.mp hss
    have hk' := ihinner hps.tail.call k hk
    exact Simple.allWritable_of_map (Compound.writable_of_negated? hk' hs) (ih hps.tail.tail) hss
  case host =>
    intro name inner rest hnot hname ih ihinner hps ss hss
    rw [Simple.allOfPieces?, if_neg hnot, if_pos hname] at hss
    obtain ⟨s, hs, hss⟩ := Option.bind_eq_some_iff.mp hss
    obtain ⟨k, hk, rfl⟩ := Option.map_eq_some_iff.mp hs
    have hs' : (Simple.host k).Writable := by
      rw [Simple.Writable]
      exact ihinner hps.tail.call k hk
    exact Simple.allWritable_of_map hs' (ih hps.tail.tail) hss
  case position =>
    intro name inner rest hnot hhost ih hps ss hss
    rw [Simple.allOfPieces?, if_neg hnot, if_neg hhost] at hss
    obtain ⟨c, -, hss⟩ := Option.bind_eq_some_iff.mp hss
    obtain ⟨s, hs, hss⟩ := Option.bind_eq_some_iff.mp hss
    have hs' : (Simple.position c s).Writable := by
      rw [Simple.Writable]
      exact Stride.inRange_of_ofPieces? hps.tail.call hs
    exact Simple.allWritable_of_map hs' (ih hps.tail.tail) hss
  case other =>
    intro ps h1 h2 h3 h4 h5 h6 _ ss hss
    rw [Simple.allOfPieces?] at hss
    · cases hss
    all_goals assumption

namespace Complex

theorem writable_of_extendAll? {e : Complex} (he : e.Writable) {rs : List (List Piece)}
    (hrs : ∀ r ∈ rs, AllProper r) {e' : Complex} (h : e.extendAll? rs = some e') : e'.Writable := by
  fun_induction extendAll? e rs with
  | case1 e =>
      obtain rfl := Option.some.inj h
      exact he
  | case2 e gap compound rest ih =>
      obtain ⟨via, -, h⟩ := Option.bind_eq_some_iff.mp h
      obtain ⟨k, hk, h⟩ := Option.bind_eq_some_iff.mp h
      refine ih via k ?_ (fun r hr => hrs r (by simp [hr])) h
      refine ⟨writable_of_reading.1 compound (hrs compound (by simp)) k hk, ?_⟩
      intro step hstep
      rcases List.mem_cons.mp hstep with rfl | hstep
      · exact he.1
      · exact he.2 step hstep
  | case3 => cases h

theorem writable_of_ofPieces? {ps : List Piece} (hps : AllProper ps) {e : Complex}
    (h : ofPieces? ps = some e) : e.Writable := by
  have hruns : ∀ r ∈ runs Piece.isGap (Piece.trim ps), AllProper r := fun r hr p hp =>
    hps p (Piece.mem_of_mem_trim (mem_of_mem_runs hr p hp))
  rw [ofPieces?_eq] at h
  generalize runs Piece.isGap (Piece.trim ps) = rs at h hruns
  cases rs with
  | nil => cases h
  | cons first rest =>
      obtain ⟨k, hk, h⟩ := Option.bind_eq_some_iff.mp h
      have hk' := writable_of_reading.1 first (hruns first List.mem_cons_self) k hk
      have hrest : ∀ r ∈ rest, AllProper r := fun r hr => hruns r (List.mem_cons_of_mem _ hr)
      exact writable_of_extendAll? ⟨hk', by simp⟩ hrest h

end Complex

namespace SelectorList

theorem exists_of_mem_mapM {parts : List (List Piece)} {l : SelectorList}
    (h : parts.mapM Complex.ofPieces? = some l) :
    ∀ e ∈ l, ∃ part ∈ parts, Complex.ofPieces? part = some e := by
  induction parts generalizing l with
  | nil =>
      obtain rfl : [] = l := Option.some.inj h
      simp
  | cons part parts ih =>
      rw [List.mapM_cons] at h
      obtain ⟨e, he, h⟩ := Option.bind_eq_some_iff.mp h
      obtain ⟨l', hl', h⟩ := Option.bind_eq_some_iff.mp h
      obtain rfl : e :: l' = l := Option.some.inj h
      intro d hd
      rcases List.mem_cons.mp hd with rfl | hd
      · exact ⟨part, List.mem_cons_self, he⟩
      · obtain ⟨q, hq, hqd⟩ := ih hl' d hd
        exact ⟨q, List.mem_cons_of_mem _ hq, hqd⟩

/-- Every selector that is read can be written. -/
theorem writable_of_ofText? {text : String} {l : SelectorList} (h : ofText? text = some l) :
    ∀ e ∈ l, e.Writable := by
  have hps : AllProper (Piece.ofTokens (Token.scan text)) :=
    Piece.holds_of_mem_ofTokens (Token.isProper_of_mem_scan text)
  intro e he
  obtain ⟨part, hpart, hread⟩ := exists_of_mem_mapM h e he
  exact Complex.writable_of_ofPieces?
    (fun p hp => hps p (Piece.mem_of_mem_splitAtCommas hpart p hp)) hread

/-- Nothing is no list. -/
theorem ofText?_empty : ofText? "" = none := by
  have hscan : Token.scan "" = [] := by
    rw [Token.scan, show "".toList = [] from rfl, normalize, Token.scanNormal]
  rw [ofText?, hscan]
  rfl

/-- A list that is read has an entry. -/
theorem ne_nil_of_ofText? {text : String} {l : SelectorList} (h : ofText? text = some l) :
    l ≠ [] := by
  rintro rfl
  rw [ofText?, ofPieces?] at h
  obtain ⟨part, parts, hparts⟩ :=
    List.exists_cons_of_ne_nil (Piece.splitAtCommas_ne_nil (Piece.ofTokens (Token.scan text)))
  rw [hparts, List.mapM_cons] at h
  obtain ⟨e, -, h⟩ := Option.bind_eq_some_iff.mp h
  obtain ⟨l', -, h⟩ := Option.bind_eq_some_iff.mp h
  cases h

end SelectorList

end MarkupQuery.Css
