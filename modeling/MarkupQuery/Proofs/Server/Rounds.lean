import Mathlib
import MarkupQuery.Server.Probe

/-!
# The rounds of a probe

A probe goes in rounds: a request is refused, retries are left, and after a wait the next request is
due. `ProbeConfig.Due` holds of every moment at which a request is due, with the number of requests
before it and the value of the counter there. From such a moment on, a probe goes on like one that
begins there (`ProbeConfig.Due.probeFrom_eq`), and its counter shows the requests before it, which
are at most as many as the retries (`ProbeConfig.Due.counted`).

The world of a probe can be anything. Where its states at the requests are known as a sequence, the
whole probe is known (`ProbeConfig.probeFrom_of_refused`).
-/

namespace MarkupQuery

/-- Whether a request was refused, so that a probe may make another one. -/
def Refused (outcome : Except Error Unit) : Prop := ∃ e, outcome = .error e ∧ e.isRefusal = true

theorem not_refused_ok : ¬ Refused (.ok ()) := by
  rintro ⟨e, h, -⟩
  cases h

theorem refused_error_iff {e : Error} : Refused (.error e) ↔ e.isRefusal = true := by
  constructor
  · rintro ⟨f, h, hf⟩
    cases h
    exact hf
  · intro h
    exact ⟨e, rfl, h⟩

namespace ProbeConfig

variable {World : Type} {config : ProbeConfig} {uri : String}

/-! ### What one request comes to -/

theorem judge_of_refused {outcome : Except Error Unit} (h : Refused outcome) (attempts : UInt32) :
    config.judge uri attempts outcome =
      if config.retries ≤ attempts - 1 then .done (.error (.unreachable uri attempts.toNat))
      else .wait (config.delay.beforeRetry (attempts - 1)) := by
  obtain ⟨e, rfl, he⟩ := h
  rw [judge, if_pos he]

theorem judge_of_not_refused {outcome : Except Error Unit} (h : ¬ Refused outcome)
    (attempts : UInt32) :
    config.judge uri attempts outcome = .done (outcome.map fun _ => attempts) := by
  cases outcome with
  | ok _ => rfl
  | error e =>
      rw [refused_error_iff] at h
      rw [judge, if_neg h]
      rfl

/-- A probe goes on exactly after a refused request while retries are left. -/
theorem judge_eq_wait_iff {attempts : UInt32} {outcome : Except Error Unit} {time : Nat} :
    config.judge uri (attempts + 1) outcome = .wait time ↔
      Refused outcome ∧ attempts < config.retries ∧
        time = config.delay.beforeRetry attempts := by
  by_cases h : Refused outcome
  · rw [judge_of_refused h, UInt32.add_sub_cancel]
    by_cases hr : config.retries ≤ attempts
    · simp [hr, UInt32.not_lt.mpr hr]
    · simp [hr, h, UInt32.not_le.mp hr, eq_comm]
  · simp [judge_of_not_refused h, h]

/-- While retries are left, a refused request is followed by the wait before the next one of them. -/
theorem judge_of_left {rounds : Nat} {outcome : Except Error Unit} (h : Refused outcome)
    (hleft : rounds < config.retries.toNat) :
    config.judge uri (UInt32.ofNat rounds + 1) outcome =
      .wait (config.delay.beforeRetry (UInt32.ofNat rounds)) := by
  have hbound := config.retries.toNat_lt
  have hlt : UInt32.ofNat rounds < config.retries := by
    rw [UInt32.lt_iff_toNat_lt, UInt32.toNat_ofNat_of_lt' (Nat.lt_trans hleft hbound)]
    exact hleft
  exact judge_eq_wait_iff.mpr ⟨h, hlt, rfl⟩

/-- With the retries used up, a refused request is the last one. The number in its error is what the
counter comes to, which is not one more than the retries if these are the largest number. -/
theorem judge_of_spent {outcome : Except Error Unit} (h : Refused outcome) :
    config.judge uri (UInt32.ofNat config.retries.toNat + 1) outcome =
      .done (.error (.unreachable uri (config.retries + 1).toNat)) := by
  rw [judge_of_refused h, UInt32.add_sub_cancel, UInt32.ofNat_toNat,
    if_pos (UInt32.le_refl config.retries)]

/-! ### The loop, one round at a time -/

variable {ask : World → World × Except Error Unit} {pass : Nat → World → World × Option Error}
  {attempts : UInt32} {world : World}

theorem probeFrom_of_done {answer : Except Error UInt32}
    (h : config.judge uri (attempts + 1) (ask world).2 = .done answer) :
    config.probeFrom uri ask pass attempts world = ⟨(ask world).1, [], answer⟩ := by
  rw [probeFrom]
  generalize ask world = reply at h ⊢
  obtain ⟨asked, outcome⟩ := reply
  dsimp only at h ⊢
  split
  · next hanswer =>
      rw [h] at hanswer
      cases hanswer
      rfl
  · next hwait =>
      rw [h] at hwait
      cases hwait

theorem probeFrom_of_wait {time : Nat}
    (h : config.judge uri (attempts + 1) (ask world).2 = .wait time)
    (hpass : (pass time (ask world).1).2 = none) :
    config.probeFrom uri ask pass attempts world =
      { config.probeFrom uri ask pass (attempts + 1) (pass time (ask world).1).1 with
        waits := time ::
          (config.probeFrom uri ask pass (attempts + 1) (pass time (ask world).1).1).waits } := by
  rw [probeFrom]
  generalize ask world = reply at h hpass ⊢
  obtain ⟨asked, outcome⟩ := reply
  dsimp only at h hpass ⊢
  split
  · next hanswer =>
      rw [h] at hanswer
      cases hanswer
  · next hwait =>
      rw [h] at hwait
      cases hwait
      generalize pass time asked = later at hpass ⊢
      obtain ⟨passed, fault?⟩ := later
      dsimp only at hpass
      subst hpass
      rfl

/-! ### The moments at which a request is due -/

def waitsOf (config : ProbeConfig) (rounds : Nat) : List Nat :=
  (List.range rounds).map fun i => config.delay.beforeRetry (UInt32.ofNat i)

theorem waitsOf_succ (rounds : Nat) :
    config.waitsOf (rounds + 1) =
      config.waitsOf rounds ++ [config.delay.beforeRetry (UInt32.ofNat rounds)] := by
  rw [waitsOf, List.range_succ, List.map_append]
  rfl

/-- A probe that began in a world comes to a request in another one, after some requests that were
all refused. Its counter has some value there, to which the request will add one. -/
inductive Due (config : ProbeConfig) (uri : String) (ask : World → World × Except Error Unit)
    (pass : Nat → World → World × Option Error) (start : World) :
    (made : Nat) → (attempts : UInt32) → World → Prop
  /-- The first request is due at once. -/
  | first : Due config uri ask pass start 0 0 start
  /-- A request is due after one that was refused, at the end of the wait. -/
  | next {made : Nat} {attempts : UInt32} {world : World} {time : Nat}
      (due : Due config uri ask pass start made attempts world)
      (wait : config.judge uri (attempts + 1) (ask world).2 = .wait time)
      (alive : (pass time (ask world).1).2 = none) :
      Due config uri ask pass start (made + 1) (attempts + 1) (pass time (ask world).1).1

namespace Due

variable {start : World} {made : Nat}

/-- The counter shows the requests made before, which are never more than the retries. -/
theorem counted (h : Due config uri ask pass start made attempts world) :
    attempts.toNat = made ∧ made ≤ config.retries.toNat := by
  induction h with
  | first => exact ⟨rfl, Nat.zero_le _⟩
  | next _ hwait _ ih =>
      obtain ⟨hcount, -⟩ := ih
      obtain ⟨-, hlt, -⟩ := judge_eq_wait_iff.mp hwait
      rw [UInt32.lt_iff_toNat_lt, hcount] at hlt
      -- a wait means that retries are left, so the counter is not at its largest number
      have hbound := config.retries.toNat_lt
      refine ⟨?_, hlt⟩
      rw [UInt32.toNat_add, hcount]
      exact Nat.mod_eq_of_lt (Nat.lt_of_le_of_lt hlt hbound)

theorem attempts_eq (h : Due config uri ask pass start made attempts world) :
    attempts = UInt32.ofNat made := by
  rw [← h.counted.1, UInt32.ofNat_toNat]

/-- Where a request is due, the probe goes on as one that begins there with the counter as it
stands; all that the rounds before leave in its account are their waits. -/
theorem probeFrom_eq (h : Due config uri ask pass start made attempts world) :
    config.probeFrom uri ask pass 0 start =
      { config.probeFrom uri ask pass attempts world with
        waits := config.waitsOf made ++ (config.probeFrom uri ask pass attempts world).waits } := by
  induction h with
  | first => rfl
  | next due hwait halive ih =>
      obtain ⟨-, -, htime⟩ := judge_eq_wait_iff.mp hwait
      rw [ih, probeFrom_of_wait hwait halive, waitsOf_succ, ← due.attempts_eq, ← htime,
        List.append_assoc, List.singleton_append]

end Due

/-! ### Refusals in a row -/

/-- As long as requests are refused and retries are left, the next request comes to be due. The
worlds are given as a sequence, each at one request. -/
theorem due_of_refused (worlds : Nat → World) {rounds : Nat}
    (hrefused : ∀ i < rounds, Refused (ask (worlds i)).2)
    (hnext : ∀ i < rounds, pass (config.delay.beforeRetry (UInt32.ofNat i)) (ask (worlds i)).1 =
      (worlds (i + 1), none))
    (hrounds : rounds ≤ config.retries.toNat) :
    Due config uri ask pass (worlds 0) rounds (UInt32.ofNat rounds) (worlds rounds) := by
  induction rounds with
  | zero => exact .first
  | succ rounds ih =>
      have due := ih (fun i hi => hrefused i (by omega)) (fun i hi => hnext i (by omega)) (by omega)
      have hpass := hnext rounds (by omega)
      have step := due.next (judge_of_left (hrefused rounds (by omega)) hrounds) (by rw [hpass])
      rw [hpass] at step
      rwa [UInt32.ofNat_add]

/-- The whole of a probe whose requests are refused for some rounds, until one ends it. -/
theorem probeFrom_of_refused (worlds : Nat → World) {rounds : Nat} {answer : Except Error UInt32}
    (hrefused : ∀ i < rounds, Refused (ask (worlds i)).2)
    (hnext : ∀ i < rounds, pass (config.delay.beforeRetry (UInt32.ofNat i)) (ask (worlds i)).1 =
      (worlds (i + 1), none))
    (hrounds : rounds ≤ config.retries.toNat)
    (hdone : config.judge uri (UInt32.ofNat rounds + 1) (ask (worlds rounds)).2 = .done answer) :
    config.probeFrom uri ask pass 0 (worlds 0) =
      ⟨(ask (worlds rounds)).1, config.waitsOf rounds, answer⟩ := by
  have due : Due config uri ask pass (worlds 0) rounds (UInt32.ofNat rounds) (worlds rounds) :=
    due_of_refused worlds hrefused hnext hrounds
  rw [due.probeFrom_eq, probeFrom_of_done hdone, List.append_nil]

end ProbeConfig

end MarkupQuery
