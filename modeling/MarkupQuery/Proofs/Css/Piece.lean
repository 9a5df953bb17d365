import Mathlib.Data.List.Basic
import MarkupQuery.Css.Selector.Reader

/-!
# Pieces and their words

Tokens whose brackets match make the same pieces wherever they stand, and nothing around them
changes that (`Piece.Grouped`). Taking pieces apart, at commas, at gaps or at their ends, adds no
word that was not there (`Piece.Holds`).
-/

namespace MarkupQuery.Css

namespace Piece

/-! ### Matching brackets -/

/-- Tokens that make some pieces wherever they stand: they are added to the block that is being
read, and all open blocks stay open. -/
def Grouped (ts : List Token) (ps : List Piece) : Prop :=
  ∀ outer here rest, group outer here (ts ++ rest) = group outer (ps.reverse ++ here) rest

/-- A word that neither opens nor closes a block. -/
def IsBare : Token → Prop
  | .opening _ | .closing _ | .function _ => False
  | _ => True

namespace Grouped

theorem nil : Grouped [] [] := fun _ _ _ => rfl

theorem append {ts us : List Token} {ps qs : List Piece} (h : Grouped ts ps) (h' : Grouped us qs) :
    Grouped (ts ++ us) (ps ++ qs) := by
  intro outer here rest
  rw [List.append_assoc, h, h', List.reverse_append, List.append_assoc]

theorem word {t : Token} (h : IsBare t) : Grouped [t] [.word t] := by
  intro outer here rest
  cases t <;> first | rfl | exact absurd h id

theorem words {ts : List Token} (h : ∀ t ∈ ts, IsBare t) : Grouped ts (ts.map .word) := by
  induction ts with
  | nil => exact nil
  | cons t ts ih =>
      exact (word (h t List.mem_cons_self)).append (ih fun u hu => h u (List.mem_cons_of_mem _ hu))

theorem block {ts : List Token} {ps : List Piece} (b : Bracket) (h : Grouped ts ps) :
    Grouped (.opening b :: ts ++ [.closing b]) [.block b (trim ps)] := by
  intro outer here rest
  show group ((.bare b, here) :: outer) [] (ts ++ [.closing b] ++ rest) = _
  rw [List.append_assoc, h]
  simp [group, Opener.bracket, Opener.close]

theorem call {ts : List Token} {ps : List Piece} (n : String) (h : Grouped ts ps) :
    Grouped (.function n :: ts ++ [.closing .round]) [.call n (trim ps)] := by
  intro outer here rest
  show group ((.named n, here) :: outer) [] (ts ++ [.closing .round] ++ rest) = _
  rw [List.append_assoc, h]
  simp [group, Opener.bracket, Opener.close]

theorem ofTokens_eq {ts : List Token} {ps : List Piece} (h : Grouped ts ps) :
    ofTokens ts = ps := by
  have := h [] [] []
  rw [List.append_nil, List.append_nil] at this
  rw [ofTokens, this, group, List.foldl_nil, List.reverse_reverse]

end Grouped

/-! ### Trimming and splitting -/

theorem trimStart_of_head? {ps : List Piece} (h : ∀ p ∈ ps.head?, p.isBlank = false) :
    trimStart ps = ps := by
  cases ps with
  | nil => rfl
  | cons p ps =>
      have hp : p.isBlank = false := h p rfl
      simp [trimStart, hp]

/-- Pieces with no white space at either end have none to trim. -/
theorem trim_eq_self {ps : List Piece} (hhead : ∀ p ∈ ps.head?, p.isBlank = false)
    (hlast : ∀ p ∈ ps.getLast?, p.isBlank = false) : trim ps = ps := by
  rw [trim, trimStart_of_head? hhead, trimStart_of_head? (by rwa [List.head?_reverse]),
    List.reverse_reverse]

theorem trim_cons_blank (ps : List Piece) : trim (.word .blank :: ps) = trim ps := rfl

theorem splitAtCommas_ne_nil (ps : List Piece) : splitAtCommas ps ≠ [] := by
  cases ps with
  | nil => simp [splitAtCommas]
  | cons p ps =>
      rw [splitAtCommas]
      split
      · simp
      · split <;> simp

theorem splitAtCommas_append {ps : List Piece} (h : ∀ p ∈ ps, p.isComma = false)
    (rest : List Piece) :
    splitAtCommas (ps ++ .word .comma :: rest) = ps :: splitAtCommas rest := by
  induction ps with
  | nil => simp [splitAtCommas, isComma]
  | cons p ps ih =>
      have hp : ¬ p.isComma = true := by simp [h p List.mem_cons_self]
      rw [List.cons_append, splitAtCommas, if_neg hp,
        ih fun q hq => h q (List.mem_cons_of_mem _ hq)]

theorem splitAtCommas_of_no_comma {ps : List Piece} (h : ∀ p ∈ ps, p.isComma = false) :
    splitAtCommas ps = [ps] := by
  induction ps with
  | nil => rfl
  | cons p ps ih =>
      have hp : ¬ p.isComma = true := by simp [h p List.mem_cons_self]
      rw [splitAtCommas, if_neg hp, ih fun q hq => h q (List.mem_cons_of_mem _ hq)]

end Piece

section Runs

variable {α : Type} {p : α → Bool}

theorem runs_ne_nil (a : α) (as : List α) : ∃ bs rest, runs p (a :: as) = (a :: bs) :: rest := by
  rw [runs]
  split
  · split
    · exact ⟨_, _, rfl⟩
    · exact ⟨[], _, rfl⟩
  · exact ⟨[], _, rfl⟩

/-- Elements that agree on the test make a run if what comes next disagrees. -/
theorem runs_append {xs ys : List α} {b : Bool} (hne : xs ≠ []) (hx : ∀ x ∈ xs, p x = b)
    (hy : ∀ y ∈ ys.head?, p y = !b) : runs p (xs ++ ys) = xs :: runs p ys := by
  induction xs with
  | nil => exact absurd rfl hne
  | cons x xs ih =>
      have hpx : p x = b := hx x List.mem_cons_self
      cases xs with
      | nil =>
          cases ys with
          | nil => rfl
          | cons y ys =>
              have hpy : p y = !b := hy y rfl
              obtain ⟨bs, rest, hrest⟩ := runs_ne_nil (p := p) y ys
              show runs p (x :: y :: ys) = _
              rw [runs, hrest]
              simp [hpx, hpy]
      | cons x' xs =>
          have hpx' : p x' = b := hx x' (by simp)
          have ih' := ih (by simp) fun z hz => hx z (List.mem_cons_of_mem _ hz)
          rw [List.cons_append, runs, ih']
          simp [hpx, hpx']

end Runs

namespace Piece

/-! ### Words that stay -/

/-- Every word of a piece, also inside its brackets, passes a test. -/
inductive Holds (P : Token → Prop) : Piece → Prop where
  | word {t : Token} (h : P t) : Holds P (.word t)
  | block {b : Bracket} {inner : List Piece} (h : ∀ p ∈ inner, Holds P p) : Holds P (.block b inner)
  | call {n : String} {inner : List Piece} (h : ∀ p ∈ inner, Holds P p) : Holds P (.call n inner)

variable {P : Token → Prop}

theorem Holds.of_word {t : Token} (h : Holds P (.word t)) : P t := by
  cases h
  assumption

theorem mem_of_mem_trimStart {ps : List Piece} {p : Piece} (h : p ∈ trimStart ps) : p ∈ ps :=
  (List.dropWhile_sublist _).subset h

theorem mem_of_mem_trim {ps : List Piece} {p : Piece} (h : p ∈ trim ps) : p ∈ ps := by
  rw [trim, List.mem_reverse] at h
  exact mem_of_mem_trimStart (List.mem_reverse.mp (mem_of_mem_trimStart h))

theorem Holds.close {o : Opener} {inner : List Piece} (h : ∀ p ∈ inner, Holds P p) :
    Holds P (o.close inner) := by
  have htrim : ∀ p ∈ trim inner.reverse, Holds P p := fun p hp =>
    h p (List.mem_reverse.mp (mem_of_mem_trim hp))
  cases o with
  | bare b => exact .block htrim
  | named n => exact .call htrim

theorem Holds.closeAll {outer : List (Opener × List Piece)} {here : List Piece}
    (houter : ∀ o ∈ outer, ∀ p ∈ o.2, Holds P p) (hhere : ∀ p ∈ here, Holds P p) :
    ∀ p ∈ outer.foldl (fun inner (o, before) => o.close inner :: before) here, Holds P p := by
  induction outer generalizing here with
  | nil => exact hhere
  | cons o outer ih =>
      refine ih (fun o' ho' => houter o' (List.mem_cons_of_mem _ ho')) ?_
      intro p hp
      rcases List.mem_cons.mp hp with rfl | hp
      · exact .close hhere
      · exact houter o List.mem_cons_self p hp

theorem holds_of_mem_group {ts : List Token} (hts : ∀ t ∈ ts, P t)
    {outer : List (Opener × List Piece)} (houter : ∀ o ∈ outer, ∀ p ∈ o.2, Holds P p)
    {here : List Piece} (hhere : ∀ p ∈ here, Holds P p) :
    ∀ p ∈ group outer here ts, Holds P p := by
  induction ts generalizing outer here with
  | nil =>
      intro p hp
      rw [group, List.mem_reverse] at hp
      exact Holds.closeAll houter hhere p hp
  | cons t ts ih =>
      have hts' : ∀ u ∈ ts, P u := fun u hu => hts u (List.mem_cons_of_mem _ hu)
      -- a word goes to the block being read
      have hword : ∀ p ∈ word t :: here, Holds P p := by
        intro p hp
        rcases List.mem_cons.mp hp with rfl | hp
        · exact .word (hts t List.mem_cons_self)
        · exact hhere p hp
      have hopen (o : Opener) : ∀ p ∈ group ((o, here) :: outer) [] ts, Holds P p := by
        refine ih hts' ?_ (by simp)
        intro o' ho'
        rcases List.mem_cons.mp ho' with rfl | ho'
        · exact hhere
        · exact houter o' ho'
      intro p hp
      rw [group.eq_def] at hp
      simp only at hp
      split at hp
      · exact hopen _ p hp
      · exact hopen _ p hp
      · split at hp
        · rename_i o before outer'
          have houter' : ∀ o' ∈ outer', ∀ q ∈ o'.2, Holds P q := fun o' ho' =>
            houter o' (List.mem_cons_of_mem _ ho')
          split at hp
          · refine ih hts' houter' ?_ p hp
            intro q hq
            rcases List.mem_cons.mp hq with rfl | hq
            · exact .close hhere
            · exact houter _ List.mem_cons_self q hq
          · exact ih hts' houter hword p hp
        · exact ih hts' (by simp) hword p hp
      · exact ih hts' houter hword p hp

/-- The words of the pieces are among the tokens. -/
theorem holds_of_mem_ofTokens {ts : List Token} (h : ∀ t ∈ ts, P t) :
    ∀ p ∈ ofTokens ts, Holds P p :=
  holds_of_mem_group h (by simp) (by simp)

theorem mem_of_mem_splitAtCommas {ps part : List Piece} (h : part ∈ splitAtCommas ps) :
    ∀ p ∈ part, p ∈ ps := by
  induction ps generalizing part with
  | nil =>
      rw [splitAtCommas, List.mem_singleton] at h
      simp [h]
  | cons q ps ih =>
      intro p hp
      rw [splitAtCommas] at h
      split at h
      · rcases List.mem_cons.mp h with rfl | h
        · cases hp
        · exact List.mem_cons_of_mem _ (ih h p hp)
      · obtain ⟨first, rest, hsplit⟩ := List.exists_cons_of_ne_nil (splitAtCommas_ne_nil ps)
        rw [hsplit] at h ih
        rcases List.mem_cons.mp h with rfl | h
        · rcases List.mem_cons.mp hp with rfl | hp
          · exact List.mem_cons_self
          · exact List.mem_cons_of_mem _ (ih List.mem_cons_self p hp)
        · exact List.mem_cons_of_mem _ (ih (List.mem_cons_of_mem _ h) p hp)

end Piece

theorem mem_of_mem_runs {α : Type} {p : α → Bool} {as run : List α} (h : run ∈ runs p as) :
    ∀ a ∈ run, a ∈ as := by
  induction as generalizing run with
  | nil => cases h
  | cons b as ih =>
      intro a ha
      rw [runs] at h
      split at h
      · rename_i c cs rest hruns
        rw [hruns] at ih
        split at h
        · rcases List.mem_cons.mp h with rfl | h
          · rcases List.mem_cons.mp ha with rfl | ha
            · exact List.mem_cons_self
            · exact List.mem_cons_of_mem _ (ih List.mem_cons_self a ha)
          · exact List.mem_cons_of_mem _ (ih (List.mem_cons_of_mem _ h) a ha)
        · rcases List.mem_cons.mp h with rfl | h
          · rw [List.mem_singleton.mp ha]
            exact List.mem_cons_self
          · exact List.mem_cons_of_mem _ (ih h a ha)
      · rcases List.mem_cons.mp h with rfl | h
        · rw [List.mem_singleton.mp ha]
          exact List.mem_cons_self
        · exact List.mem_cons_of_mem _ (ih h a ha)

end MarkupQuery.Css
