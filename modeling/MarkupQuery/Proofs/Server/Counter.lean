import Mathlib
import MarkupQuery.Proofs.Server.Probe

/-!
# The counter of a probe

A probe counts its requests in 32 bits, and there may be one more of them than its retries. The
number of requests is within that budget for every number of retries (`ProbeConfig.world_probe_le`),
and the counter has room for it unless the retries are the largest number of 32 bits
(`ProbeConfig.counter_fits_iff`). With that budget the request number `2 ^ 32` takes the counter back
to zero, and a probe that is refused to its end says that it made none
(`ProbeConfig.probe_of_largest_budget`).
-/

namespace MarkupQuery.ProbeConfig

variable {config : ProbeConfig} {uri : String} {outcomes : Nat → Except Error Unit}

/-- A probe makes at most one request more than its retries. -/
theorem world_probe_le (config : ProbeConfig) (uri : String)
    (outcomes : Nat → Except Error Unit) :
    (config.probe uri (inOrder outcomes) 0).world ≤ config.retries.toNat + 1 := by
  obtain ⟨rounds, answer, hends⟩ := exists_endsAfter config uri outcomes
  rw [hends.probe_inOrder]
  exact Nat.succ_le_succ hends.within_retries

/-- While nothing but refusals comes, every request of the budget comes to be due. -/
theorem due_inOrder {made : Nat} (hrefused : ∀ i < made, Refused (outcomes i))
    (hmade : made ≤ config.retries.toNat) :
    Due config uri (inOrder outcomes) (fun _ world => (world, none)) 0 made (UInt32.ofNat made)
      made :=
  due_of_refused id hrefused (fun _ _ => rfl) hmade

/-- Where a request is due, there is room for one more in the counter, or the request is the last
one of the largest budget. -/
theorem Due.fits_or_last {World : Type} {ask : World → World × Except Error Unit}
    {pass : Nat → World → World × Option Error} {start world : World} {made : Nat}
    {attempts : UInt32} (h : Due config uri ask pass start made attempts world) :
    attempts.toNat + 1 ≤ 2 ^ 32 - 1 ∨
      made = 2 ^ 32 - 1 ∧ config.retries.toNat = 2 ^ 32 - 1 := by
  obtain ⟨hcount, hle⟩ := h.counted
  have hbound := config.retries.toNat_lt
  omega

/-- Every request of a probe finds the number of requests before it in the counter, which is never
more than the retries, and a probe ends after at most one request more. Adding one to the counter
stays within 32 bits, and taking one off again stays above zero, in all probes exactly if the retries
are not the largest number of 32 bits. -/
theorem counter_fits_iff (config : ProbeConfig) (uri : String) :
    (∀ (World : Type) (ask : World → World × Except Error Unit)
        (pass : Nat → World → World × Option Error) (start : World) (made : Nat)
        (attempts : UInt32) (world : World),
      Due config uri ask pass start made attempts world →
        attempts.toNat = made ∧ made ≤ config.retries.toNat) ∧
    (∀ outcomes, (config.probe uri (inOrder outcomes) 0).world ≤ config.retries.toNat + 1) ∧
    ((∀ (outcomes : Nat → Except Error Unit) (made : Nat) (attempts : UInt32) (world : Nat),
      Due config uri (inOrder outcomes) (fun _ world => (world, none)) 0 made attempts world →
        attempts.toNat + 1 ≤ 2 ^ 32 - 1 ∧ 1 ≤ (attempts + 1).toNat) ↔
      config.retries.toNat < 2 ^ 32 - 1) := by
  refine ⟨fun World ask pass start made attempts world h => h.counted,
    world_probe_le config uri, fun hfits => ?_, fun hretries outcomes made attempts world h => ?_⟩
  · by_contra hlargest
    have hbound := config.retries.toNat_lt
    have hdue : Due config uri (inOrder fun _ => .error (.transport .refused))
        (fun _ world => (world, none)) 0 config.retries.toNat _ _ :=
      due_inOrder (fun _ _ => ⟨_, rfl, rfl⟩) le_rfl
    have hcount := hdue.counted.1
    have hroom := (hfits _ _ _ _ hdue).1
    omega
  · have hroom : attempts.toNat + 1 ≤ 2 ^ 32 - 1 := by
      rcases h.fits_or_last with hroom | ⟨-, hlargest⟩
      · exact hroom
      · omega
    refine ⟨hroom, ?_⟩
    rw [UInt32.toNat_add, UInt32.toNat_one]
    omega

/-- With the largest budget, a probe whose requests are all refused makes `2 ^ 32` of them. The last
one takes the counter back to zero, and zero is what the probe says. -/
theorem probe_of_largest_budget (hretries : config.retries.toNat = 2 ^ 32 - 1)
    (hrefused : ∀ i < 2 ^ 32, Refused (outcomes i)) :
    config.probe uri (inOrder outcomes) 0 =
      ⟨2 ^ 32, config.waitsOf (2 ^ 32 - 1), .error (.unreachable uri 0)⟩ := by
  have hzero : (config.retries + 1).toNat = 0 := by
    rw [UInt32.toNat_add, hretries]
    rfl
  have hdone : config.judge uri (UInt32.ofNat config.retries.toNat + 1) (outcomes (2 ^ 32 - 1)) = _ :=
    judge_of_spent (hrefused (2 ^ 32 - 1) (by omega))
  rw [hretries, hzero] at hdone
  have hends : config.EndsAfter uri outcomes (2 ^ 32 - 1) (.error (.unreachable uri 0)) :=
    ⟨fun i hi => hrefused i (by omega), hretries.ge, hdone⟩
  exact hends.probe_inOrder

/-- Nothing listens at an address, and the budget is the largest one. The counter stands at its last
number when the last request is due, so that one more is none, and one less than that is the last
number again. The probe says after `2 ^ 32` requests that there were none. -/
theorem counter_overflows :
    let config : ProbeConfig := ⟨.fixed 0, 4294967295⟩
    let uri := "http://127.0.0.1:1/"
    let refusing (_ : Nat) : Except Error Unit := .error (.transport .refused)
    Due config uri (inOrder refusing) (fun _ world => (world, none)) 0 (2 ^ 32 - 1) 4294967295
        (2 ^ 32 - 1) ∧
      ¬ (4294967295 : UInt32).toNat + 1 ≤ 2 ^ 32 - 1 ∧
      ¬ 1 ≤ ((4294967295 : UInt32) + 1).toNat ∧
      (config.probe uri (inOrder refusing) 0).world = 2 ^ 32 ∧
      (config.probe uri (inOrder refusing) 0).answer = .error (.unreachable uri 0) := by
  intro config uri refusing
  have hrefused (i : Nat) : Refused (refusing i) := ⟨_, rfl, rfl⟩
  have hprobe : config.probe uri (inOrder refusing) 0 = _ :=
    probe_of_largest_budget rfl fun i _ => hrefused i
  refine ⟨due_inOrder (fun i _ => hrefused i) le_rfl, by decide, by decide, ?_, ?_⟩
  · rw [hprobe]
  · rw [hprobe]

end MarkupQuery.ProbeConfig
