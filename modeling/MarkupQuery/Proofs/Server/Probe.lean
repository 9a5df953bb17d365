import Mathlib
import MarkupQuery.Proofs.Server.Rounds

/-!
# What a probe does

A server is known here by the outcomes of the requests that it gets, one after the other. A probe
makes requests up to the first one that is not refused, but not more than one more than its retries,
and its answer is what the last request comes to (`ProbeConfig.probe_outcome`). It waits between two
requests and at no other time, before the first retry as the delay says for that one, and so on
(`ProbeConfig.EndsAfter.probeFrom_hear`).
-/

namespace MarkupQuery

/-! ### Times to wait -/

/-- The time to wait before a retry, for retries counted from zero without an end: the fixed time, or
the time at that place of the list, past its end the last one, and none if the list is empty. -/
def Delay.timeBefore : Delay → Nat → Nat
  | fixed time, _ => time
  | sequence [], _ => 0
  | sequence (time :: times), retry =>
    (time :: times).get ⟨min retry times.length, by simp only [List.length_cons]; omega⟩

theorem Delay.beforeRetry_ofNat (delay : Delay) {retry : Nat} (h : retry < 2 ^ 32) :
    delay.beforeRetry (UInt32.ofNat retry) = delay.timeBefore retry := by
  have hretry : (UInt32.ofNat retry).toNat = retry := UInt32.toNat_ofNat_of_lt' h
  match delay with
  | fixed time => rfl
  | sequence [] => simp [beforeRetry, timeBefore]
  | sequence (time :: times) =>
      rcases Nat.lt_or_ge retry (times.length + 1) with hlt | hge
      · rw [beforeRetry_of_lt (by rw [hretry]; exact hlt)]
        simp only [timeBefore, List.get_eq_getElem, hretry]
        congr 1
        omega
      · rw [beforeRetry_of_le (by rw [hretry]; exact hge), timeBefore,
          List.getLast?_eq_some_getLast (List.cons_ne_nil time times), Option.getD_some,
          List.getLast_eq_getElem, List.get_eq_getElem]
        congr 1
        simp only [List.length_cons]
        omega

/-! ### Servers by their outcomes -/

/-- The requests of a sequence are answered in order. What is known of the world is how many of them
were made. -/
def inOrder (outcomes : Nat → Except Error Unit) (made : Nat) : Nat × Except Error Unit :=
  (made + 1, outcomes made)

/-- A request is the first one that is not refused, counted from one. -/
structure FirstReply (outcomes : Nat → Except Error Unit) (k : Nat) : Prop where
  pos : 0 < k
  refused : ∀ i, i + 1 < k → Refused (outcomes i)
  replied : ¬ Refused (outcomes (k - 1))

/-- Among so many requests there is a first one that is not refused, or all of them are refused. -/
theorem firstReply_or_refused (outcomes : Nat → Except Error Unit) (n : Nat) :
    (∃ k ≤ n, FirstReply outcomes k) ∨ ∀ i < n, Refused (outcomes i) := by
  induction n with
  | zero => exact .inr fun i hi => absurd hi (Nat.not_lt_zero i)
  | succ n ih =>
      rcases ih with ⟨k, hk, hfirst⟩ | hrefused
      · exact .inl ⟨k, by omega, hfirst⟩
      · by_cases hn : Refused (outcomes n)
        · refine .inr fun i hi => ?_
          rcases Nat.lt_succ_iff_lt_or_eq.mp hi with hlt | rfl
          · exact hrefused i hlt
          · exact hn
        · exact .inl ⟨n + 1, le_rfl, Nat.succ_pos n, fun i hi => hrefused i (by omega), hn⟩

namespace ProbeConfig

variable {config : ProbeConfig} {uri : String} {outcomes : Nat → Except Error Unit} {rounds : Nat}
  {answer : Except Error UInt32}

/-! ### The last request -/

/-- A probe ends with the request after some refused ones, not more than there are retries. -/
structure EndsAfter (config : ProbeConfig) (uri : String) (outcomes : Nat → Except Error Unit)
    (rounds : Nat) (answer : Except Error UInt32) : Prop where
  refused : ∀ i < rounds, Refused (outcomes i)
  within_retries : rounds ≤ config.retries.toNat
  judged : config.judge uri (UInt32.ofNat rounds + 1) (outcomes rounds) = .done answer

theorem exists_endsAfter (config : ProbeConfig) (uri : String)
    (outcomes : Nat → Except Error Unit) :
    ∃ rounds answer, config.EndsAfter uri outcomes rounds answer := by
  rcases firstReply_or_refused outcomes (config.retries.toNat + 1) with ⟨k, hk, hfirst⟩ | hrefused
  · have hpos := hfirst.pos
    exact ⟨k - 1, _, fun i hi => hfirst.refused i (by omega), by omega,
      judge_of_not_refused hfirst.replied _⟩
  · exact ⟨config.retries.toNat, _, fun i hi => hrefused i (by omega), le_rfl,
      judge_of_spent (hrefused _ (Nat.lt_succ_self _))⟩

/-- The refused requests before the last one are all that the outcomes allow. -/
theorem EndsAfter.eq_of_firstReply {k : Nat} (h : config.EndsAfter uri outcomes rounds answer)
    (hfirst : FirstReply outcomes k) (hk : k ≤ config.retries.toNat + 1) : rounds + 1 = k := by
  have hpos := hfirst.pos
  have hle : rounds ≤ k - 1 := by
    by_contra hlater
    exact hfirst.replied (h.refused (k - 1) (by omega))
  rcases Nat.lt_or_eq_of_le hle with hlt | heq
  · -- an earlier request is refused with retries left, which is not the end
    have hdone := h.judged
    rw [judge_of_left (hfirst.refused rounds (by omega)) (by omega)] at hdone
    cases hdone
  · omega

/-- Where all requests are refused, the last one is the one after which no retries are left. -/
theorem EndsAfter.eq_of_refused (h : config.EndsAfter uri outcomes rounds answer)
    (hlast : Refused (outcomes rounds)) :
    rounds = config.retries.toNat ∧
      answer = .error (.unreachable uri (config.retries + 1).toNat) := by
  have hdone := h.judged
  rcases Nat.lt_or_eq_of_le h.within_retries with hleft | rfl
  · rw [judge_of_left hlast hleft] at hdone
    cases hdone
  · rw [judge_of_spent hlast] at hdone
    cases hdone
    exact ⟨rfl, rfl⟩

theorem EndsAfter.probe_inOrder (h : config.EndsAfter uri outcomes rounds answer) :
    config.probe uri (inOrder outcomes) 0 = ⟨rounds + 1, config.waitsOf rounds, answer⟩ :=
  probeFrom_of_refused id h.refused (fun _ _ => rfl) h.within_retries h.judged

end ProbeConfig

/-! ### Requests and waits in their order -/

/-- What is noticed of a probe. -/
inductive ProbeEvent where
  | request
  | wait (time : Nat)
  deriving DecidableEq, Repr

namespace ProbeEvent

/-- Answers the requests of a sequence in order, and takes each of them down. -/
def hear (outcomes : Nat → Except Error Unit) (log : List ProbeEvent) :
    List ProbeEvent × Except Error Unit :=
  (log ++ [request], outcomes (log.count request))

def note (time : Nat) (log : List ProbeEvent) : List ProbeEvent × Option Error :=
  (log ++ [wait time], none)

/-- What happens in the first rounds of a probe: a request and a wait in each of them. -/
def ofRounds (delay : Delay) (rounds : Nat) : List ProbeEvent :=
  (List.range rounds).flatMap fun i => [request, wait (delay.beforeRetry (UInt32.ofNat i))]

theorem ofRounds_succ (delay : Delay) (rounds : Nat) :
    ofRounds delay (rounds + 1) =
      ofRounds delay rounds ++ [request, wait (delay.beforeRetry (UInt32.ofNat rounds))] := by
  simp [ofRounds, List.range_succ]

theorem count_request_ofRounds (delay : Delay) (rounds : Nat) :
    (ofRounds delay rounds).count request = rounds := by
  induction rounds with
  | zero => rfl
  | succ rounds ih =>
      rw [ofRounds_succ, List.count_append, ih]
      rfl

end ProbeEvent

namespace ProbeConfig

variable {config : ProbeConfig} {uri : String} {outcomes : Nat → Except Error Unit} {rounds : Nat}
  {answer : Except Error UInt32}

/-- The same probe with everything taken down: each refused request is followed by its wait, and the
last request by nothing. -/
theorem EndsAfter.probeFrom_hear (h : config.EndsAfter uri outcomes rounds answer) :
    config.probeFrom uri (ProbeEvent.hear outcomes) ProbeEvent.note 0 [] =
      ⟨ProbeEvent.ofRounds config.delay rounds ++ [.request], config.waitsOf rounds, answer⟩ := by
  have houtcome (i : Nat) :
      (ProbeEvent.hear outcomes (ProbeEvent.ofRounds config.delay i)).2 = outcomes i := by
    rw [ProbeEvent.hear, ProbeEvent.count_request_ofRounds]
  refine probeFrom_of_refused (ProbeEvent.ofRounds config.delay) (fun i hi => ?_)
    (fun i _ => ?_) h.within_retries ?_
  · rw [houtcome]
    exact h.refused i hi
  · rw [ProbeEvent.note, ProbeEvent.hear, ProbeEvent.ofRounds_succ, List.append_assoc]
    rfl
  · rw [houtcome]
    exact h.judged

/-- A probe with fewer than `2 ^ 32 - 1` retries, of a server that answers in any order. Let the
`k`-th request be the first one that is not refused. If so many requests may be made, that is their
number, and the answer of the probe is the number or the failure of the last request. If not, or if
all are refused, there is one request more than there are retries, and the answer says so. The first
wait is the one before the first retry, and so on, each between two requests. -/
theorem probe_outcome (config : ProbeConfig) (uri : String) (outcomes : Nat → Except Error Unit)
    (hretries : config.retries.toNat < 2 ^ 32 - 1) :
    let probed := config.probe uri (inOrder outcomes) 0
    let heard := config.probeFrom uri (ProbeEvent.hear outcomes) ProbeEvent.note 0 []
    (∀ k, FirstReply outcomes k → k ≤ config.retries.toNat + 1 →
      probed.world = k ∧
      (outcomes (k - 1) = .ok () → probed.answer.map UInt32.toNat = .ok k) ∧
      ∀ e, outcomes (k - 1) = .error e → probed.answer = .error e) ∧
    ((∀ k, FirstReply outcomes k → config.retries.toNat + 1 < k) →
      probed.world = config.retries.toNat + 1 ∧
      probed.answer = .error (.unreachable uri (config.retries.toNat + 1))) ∧
    probed.waits = (List.range (probed.world - 1)).map config.delay.timeBefore ∧
    heard.world = ProbeEvent.ofRounds config.delay (probed.world - 1) ++ [.request] ∧
    heard.answer = probed.answer ∧
    ∀ i, i + 1 < probed.world →
      config.delay.beforeRetry (UInt32.ofNat i) = config.delay.timeBefore i := by
  intro probed heard
  obtain ⟨rounds, answer, hends⟩ := exists_endsAfter config uri outcomes
  have hrounds := hends.within_retries
  have hprobed : probed = ⟨rounds + 1, config.waitsOf rounds, answer⟩ := hends.probe_inOrder
  have hheard : heard = ⟨ProbeEvent.ofRounds config.delay rounds ++ [.request],
      config.waitsOf rounds, answer⟩ := hends.probeFrom_hear
  have hcount : (UInt32.ofNat rounds + 1).toNat = rounds + 1 := by
    rw [UInt32.toNat_add, UInt32.toNat_ofNat', UInt32.toNat_one]
    omega
  have htime (i : Nat) (hi : i < rounds) :
      config.delay.beforeRetry (UInt32.ofNat i) = config.delay.timeBefore i :=
    config.delay.beforeRetry_ofNat (by omega)
  rw [hprobed, hheard]
  refine ⟨fun k hfirst hk => ?_, fun hnone => ?_, ?_, rfl, rfl,
    fun i hi => htime i (Nat.lt_of_succ_lt_succ hi)⟩
  · -- the probe got as far as the first reply, which is its answer
    obtain rfl := hends.eq_of_firstReply hfirst hk
    have hreplied := hfirst.replied
    have hdone := hends.judged
    rw [Nat.add_sub_cancel] at hreplied ⊢
    rw [judge_of_not_refused hreplied] at hdone
    cases hdone
    refine ⟨rfl, fun hok => ?_, fun e he => ?_⟩
    · rw [hok]
      exact congrArg Except.ok hcount
    · rw [he]
      rfl
  · -- a last request with a reply would be a first one within the budget
    have hlast : Refused (outcomes rounds) := by
      by_contra hreplied
      have hfirst : FirstReply outcomes (rounds + 1) :=
        ⟨Nat.succ_pos _, fun i hi => hends.refused i (by omega), hreplied⟩
      have hearly := hnone (rounds + 1) hfirst
      omega
    obtain ⟨rfl, rfl⟩ := hends.eq_of_refused hlast
    rw [UInt32.ofNat_toNat] at hcount
    exact ⟨rfl, by rw [hcount]⟩
  · exact List.map_congr_left fun i hi => htime i (List.mem_range.mp hi)

/-- A server that refuses three requests is there at the fourth one; the last time of the list is
used twice. -/
theorem probe_outcome_fourth :
    let config : ProbeConfig := ⟨.sequence [10, 15], 3⟩
    let outcomes (i : Nat) : Except Error Unit :=
      if i < 3 then .error (.transport .refused) else .ok ()
    let probed := config.probe "http://localhost:3333" (inOrder outcomes) 0
    config.retries.toNat < 2 ^ 32 - 1 ∧ FirstReply outcomes 4 ∧ probed.world = 4 ∧
      probed.answer.map UInt32.toNat = .ok 4 ∧ probed.waits = [10, 15, 15] ∧
      (config.probeFrom "http://localhost:3333" (ProbeEvent.hear outcomes) ProbeEvent.note 0
        []).world =
        [.request, .wait 10, .request, .wait 15, .request, .wait 15, .request] := by
  intro config outcomes probed
  have hfirst : FirstReply outcomes 4 :=
    ⟨by decide, fun i hi => ⟨_, if_pos (by omega), rfl⟩, not_refused_ok⟩
  obtain ⟨hfew, -, hwaits, hevents, -⟩ :=
    probe_outcome config "http://localhost:3333" outcomes (by decide)
  obtain ⟨hcount, hanswer, -⟩ := hfew 4 hfirst (by decide)
  rw [hcount] at hwaits hevents
  exact ⟨by decide, hfirst, hcount, hanswer rfl, hwaits, hevents⟩

end ProbeConfig

end MarkupQuery
