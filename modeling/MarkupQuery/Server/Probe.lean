import MarkupQuery.Error
import MarkupQuery.Server.Delay

/-!
# Probing

A server that is starting refuses connections. A probe asks it again and again until it answers, and
waits between two requests as the delay says. Only a refused connection is asked again; every other
failure ends the probe, and so does a refusal when no retries are left.

What is probed is any world with a request to make in it. `ProbeConfig.judge` says what the outcome
of one request means; `ProbeConfig.probe` makes requests until that is the end.
-/

namespace MarkupQuery

/-- How a server is probed. -/
structure ProbeConfig where
  delay : Delay
  /-- How many more requests may follow the first one. -/
  retries : UInt32
  deriving DecidableEq, Repr

/-- Whether the failure is one of connecting, so that the server may just not be there yet. -/
def Error.isRefusal : Error → Bool
  | .transport .refused => true
  | _ => false

namespace ProbeConfig

def standardDelay : Nat := 100

def standardRetries : UInt32 := 10

def standard : ProbeConfig := ⟨.fixed standardDelay, standardRetries⟩

def withDelay (config : ProbeConfig) (delay : Delay) : ProbeConfig := { config with delay }

def withRetries (config : ProbeConfig) (retries : UInt32) : ProbeConfig := { config with retries }

end ProbeConfig

/-- What a probe does after a request. -/
inductive ProbeStep where
  /-- It ends, with the number of requests that were needed or with what went wrong. -/
  | done (answer : Except Error UInt32)
  /-- It waits some milliseconds and asks again. -/
  | wait (time : Nat)

/-- A probe that is over: the world it leaves behind, the times it waited, and its answer. -/
structure Probed (World : Type) where
  world : World
  waits : List Nat
  answer : Except Error UInt32

namespace ProbeConfig

/-- What a probe of an address does after a request, the last one of `attempts`. -/
def judge (config : ProbeConfig) (uri : String) (attempts : UInt32) : Except Error Unit → ProbeStep
  | .ok () => .done (.ok attempts)
  | .error e =>
    if e.isRefusal then
      if config.retries ≤ attempts - 1 then .done (.error (.unreachable uri attempts.toNat))
      else .wait (config.delay.beforeRetry (attempts - 1))
    else .done (.error e)

/-- A probe waits only while retries are left. -/
theorem lt_retries_of_judge_eq_wait {config : ProbeConfig} {uri : String} {attempts : UInt32}
    {outcome : Except Error Unit} {time : Nat}
    (h : config.judge uri attempts outcome = .wait time) : attempts - 1 < config.retries := by
  unfold judge at h
  split at h
  · simp at h
  · split at h
    · split at h
      · simp at h
      · exact UInt32.not_le.1 ‹_›
    · simp at h

/-- While retries are left, there are fewer of them after one more request. -/
theorem retriesLeft_lt {config : ProbeConfig} {attempts : UInt32}
    (h : attempts + 1 - 1 < config.retries) :
    config.retries.toNat - (attempts + 1).toNat < config.retries.toNat - attempts.toNat := by
  rw [UInt32.add_sub_cancel, UInt32.lt_iff_toNat_lt] at h
  have bound := config.retries.toNat_lt
  have next : (attempts + 1).toNat = attempts.toNat + 1 := by
    rw [UInt32.toNat_add]
    exact Nat.mod_eq_of_lt (Nat.lt_of_le_of_lt h bound)
  omega

/-- Goes on with a probe after some requests. Time that passes in the world may bring a failure that
ends the probe. -/
def probeFrom {World : Type} (config : ProbeConfig) (uri : String)
    (ask : World → World × Except Error Unit) (pass : Nat → World → World × Option Error)
    (attempts : UInt32) (world : World) : Probed World :=
  let (world, outcome) := ask world
  match _judged : config.judge uri (attempts + 1) outcome with
  | .done answer => ⟨world, [], answer⟩
  | .wait time =>
    match pass time world with
    | (world, some e) => ⟨world, [time], .error e⟩
    | (world, none) =>
      let rest := probeFrom config uri ask pass (attempts + 1) world
      { rest with waits := time :: rest.waits }
termination_by config.retries.toNat - attempts.toNat
decreasing_by exact retriesLeft_lt (lt_retries_of_judge_eq_wait _judged)

/-- Probes an address: makes a request in a world, and more of them as long as they are refused and
retries are left. Nothing happens in between. -/
def probe {World : Type} (config : ProbeConfig) (uri : String)
    (ask : World → World × Except Error Unit) (world : World) : Probed World :=
  probeFrom config uri ask (fun _ world => (world, none)) 0 world

end ProbeConfig

end MarkupQuery
