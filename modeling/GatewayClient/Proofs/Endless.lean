import GatewayClient.Proofs.Client.Pacing
import GatewayClient.Proofs.Retry.Finite

/-!
# Waiting without end

On the scale of doubles there are infinite numbers of seconds, and a gateway can ask for one. The
policy of a call chooses no such delay where its fields are finite and its delays are capped, and no
deadline leaves room for it.

**A call sleeps without end exactly if its gateway asks for it** and the policy has no deadline
(`Client.endless_iff`). No other sleep is infinite, and none is negative or NaN.
-/

set_option autoImplicit false

namespace GatewayClient

open Double

/-- The readings of the clock are finite, and none is earlier than one before it. -/
structure Log.Steady (log : Log Float) : Prop where
  finite : ∀ now ∈ log.readings, now.isFinite = true
  forward : log.readings.Pairwise (· ≤ ·)

/-- What a header asks for is not negative. -/
theorem Outcome.retryAfter?_nonneg {outcome : Outcome} {seconds : Float}
    (asks : outcome.retryAfter? = some seconds) : 0.0 ≤ seconds := by
  cases outcome with
  | failure f => cases asks
  | response r =>
    obtain ⟨text, -, read⟩ := Option.bind_eq_some_iff.mp asks
    exact of_decide_eq_true (Option.filter_eq_some_iff.mp read).2

/-- What a call chooses to wait is a finite number of seconds, unless its server asks for an
infinite one and there is no deadline. -/
theorem Call.infinite_of_chose {c : Call Float} {cap started now wait : Float} {before : Log Float}
    (bounded : c.policy.Bounded cap)
    (passed : ∀ deadline, c.policy.deadline = some deadline → 0.0 ≤ now - started)
    (drawn : ∀ chance ∈ before.drawn, 0.0 ≤ chance ∧ chance < 1.0)
    (chose : c.Chose started before now wait) :
    0.0 ≤ wait ∧ (wait.isFinite = false ↔ c.policy.deadline = none ∧ ∃ outcome seconds,
      before.answer? = some outcome ∧ (outcome.retryAfter? : Option Float) = some seconds ∧
        seconds.isFinite = false) := by
  obtain ⟨outcome, e, chance, delay, answered, retries, last, next, rfl⟩ := chose
  have asked : e.retryAfter = outcome.retryAfter? := by
    rw [Outcome.retryAfter_payload retries.failed, if_pos retries.retryable]
  have waits := bounded.isWait_nextDelay passed
    (fun jittered => drawn chance (List.mem_of_getLast? (last jittered))) next
  have unspent := RetryPolicy.isSpent_of_nextDelay next
  have left := fun deadline budget =>
    (bounded.left_finite budget (passed deadline budget) unspent).finite
  obtain ⟨natural, infinite⟩ := RetryPolicy.honour_infinite_iff waits left
    e.retryAfter fun seconds asks => Outcome.retryAfter?_nonneg (asked ▸ asks)
  refine ⟨natural, infinite.trans (and_congr_right fun _ => ?_)⟩
  rw [answered, asked]
  constructor
  · rintro ⟨seconds, asks, endless⟩
    exact ⟨outcome, seconds, rfl, asks, endless⟩
  · rintro ⟨_, seconds, same, asks, endless⟩
    cases same
    exact ⟨seconds, asks, endless⟩

/-- The sleeps of a call under an accepted and finite policy that caps its delays are not negative,
and each of them ends, unless the policy has no deadline and the answer before it asked for an
infinite wait. Where there is a deadline, that holds on every clock that is steady. -/
theorem Client.endless_iff {σ : Type} (w : World σ Float) (s : σ) (c : Client Float)
    (o : CallOptions Float) (name : String) (values : PathValues) (query : Query)
    (body : Option Bytes) (idempotent : Bool) {cap : Float}
    (accepted : (c.policyFor o).fault? = none) (finite : (c.policyFor o).IsFinite)
    (capped : (c.policyFor o).maxDelay = some cap) (low : cap ≤ 1e9) :
    let log := ((c.callNamed name values query body idempotent o).runIn w s).events
    (∀ chance ∈ log.drawn, 0.0 ≤ chance ∧ chance < 1.0) →
    ((c.policyFor o).deadline = none ∨ log.Steady) →
    ∀ (before : Log Float) delay after, log = before ++ .slept delay :: after →
      0.0 ≤ delay ∧ (delay.isFinite = false ↔ (c.policyFor o).deadline = none ∧
        ∃ (outcome : Outcome) (seconds : Float), before.answer? = some outcome ∧
          outcome.retryAfter? = some seconds ∧ seconds.isFinite = false) := by
  intro log drawn steady before delay after split
  have ran := c.rounds_of_callNamed w s name values query body idempotent o
  dsimp only at ran
  rcases ran with nothing | ⟨op, route, started, rest, logged, rounds⟩
  · have nothing : log = [] := nothing
    simp [nothing] at split
  · have logged : log = .clock started :: rest := logged
    have paced := rounds.paced [.clock started] rfl
    obtain ⟨ask, quiet, now, begun, -, -, chose⟩ := paced.chosen_of_begun (logged ▸ split)
    have follows : (c.callFor op route body idempotent o).policy = c.policyFor o :=
      if_pos chose.idempotent
    -- Under a deadline the clock has to be steady: what is left is a difference of two of its
    -- readings.
    have passed : ∀ deadline, (c.policyFor o).deadline = some deadline → 0.0 ≤ now - started := by
      intro deadline budget
      have steady := steady.resolve_left (by simp [budget])
      have readings : log.readings = started :: (ask.readings ++ now :: quiet.readings ++
          Log.readings (.slept delay :: after)) := by
        simp [split, begun]
      obtain ⟨finite, forward⟩ := steady
      rw [readings] at finite forward
      exact sub_nonneg_of_le (finite now (by simp)) (finite started (by simp))
        ((List.pairwise_cons.mp forward).1 now (by simp))
    have drawn : ∀ chance ∈ before.drawn, 0.0 ≤ chance ∧ chance < 1.0 := by
      intro chance mem
      refine drawn chance ?_
      rw [split, Log.drawn_append]
      exact List.mem_append_left _ mem
    rw [← follows] at accepted finite capped passed ⊢
    exact Call.infinite_of_chose ⟨RetryPolicy.accepted_of_fault? accepted, finite, capped, low⟩
      passed drawn chose

section Sleeping

/-- A gateway that is busy, and asks for an infinite wait. -/
def sleepingGateway : Script Float where
  now := 0.0
  replies :=
    [{ answer := some (.response { status := 503, headers := [("retry-after", "inf")] })
       advance := 0.25 }, Script.exhausted]

/-- What a call does there. -/
def sleepingRun : Run (Script Float) Float (Except (Failure Float) Json.Fields) :=
  (Client.onThisMachine.callNamed "network_economics" [] [] none true {}).runIn Script.world
    sleepingGateway

/-- The numbers of the usual policy are finite. -/
theorem RetryPolicy.isFinite_default : ({} : RetryPolicy Float).IsFinite where
  baseDelay := rfl
  multiplier := rfl
  maxDelay cap same := by cases same; rfl
  jitter := rfl
  deadline _ none := by cases none
  rateLimitFactor := rfl

/-- The call sleeps there without end, though its policy is accepted and caps all delays. -/
theorem Client.endless_sleep :
    (Client.onThisMachine.policyFor {}).fault? = none ∧
      (Client.onThisMachine.policyFor {}).IsFinite ∧
      (Client.onThisMachine.policyFor {}).maxDelay = some 30.0 ∧ (30.0 : Float) ≤ 1e9 ∧
      ¬ ∀ delay ∈ sleepingRun.slept, delay.isFinite = true ∧ 0.0 ≤ delay := by
  refine ⟨Option.isNone_iff_eq_none.mp (by decide +kernel), RetryPolicy.isFinite_default, rfl,
    by decide +kernel, fun all => ?_⟩
  have endless : ¬ ∀ delay ∈ sleepingRun.slept, delay.isFinite = true := by decide +kernel
  exact endless fun delay mem => (all delay mem).1

/-- The answer before that sleep is the cause of it. -/
theorem Client.endless_iff_asked :
    (Client.onThisMachine.policyFor {}).fault? = none ∧
    ∃ (before : Log Float) (delay : Float) (after : Log Float),
      sleepingRun.events = before ++ .slept delay :: after ∧ 0.0 ≤ delay ∧
      delay.isFinite = false ∧ ∃ (outcome : Outcome) (seconds : Float),
        before.answer? = some outcome ∧ outcome.retryAfter? = some seconds ∧
          seconds.isFinite = false := by
  have accepted : (Client.onThisMachine.policyFor {}).fault? = none :=
    Option.isNone_iff_eq_none.mp (by decide +kernel)
  have endless : ∃ delay ∈ sleepingRun.slept, delay.isFinite = false := by decide +kernel
  obtain ⟨delay, mem, infinite⟩ := endless
  obtain ⟨before, after, split⟩ := List.append_of_mem (Log.mem_slept.mp mem)
  have undrawn : ∀ chance ∈ Log.drawn sleepingRun.events, 0.0 ≤ chance ∧ chance < 1.0 := by
    decide +kernel
  obtain ⟨natural, law⟩ := Client.endless_iff Script.world sleepingGateway Client.onThisMachine {}
    "network_economics" [] [] none true accepted RetryPolicy.isFinite_default rfl
    (by decide +kernel) undrawn (.inl rfl) before delay after split
  exact ⟨accepted, before, delay, after, split, natural, infinite, (law.mp infinite).2⟩

end Sleeping

end GatewayClient
