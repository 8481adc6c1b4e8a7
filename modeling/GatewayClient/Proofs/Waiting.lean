import GatewayClient.Proofs.Client.Deadline
import GatewayClient.Proofs.Deadlines
import GatewayClient.Proofs.Poll.Pacing

/-!
# How long operations wait

A deadline bounds every sleep of a call and of a poll by what is left of it, and so all of them
together. In a call, a server that asks for a longer wait than the policy chose is honoured, as far
as the deadline allows.

**Both hold of every run** (`sleeps_within_budget`): for every gateway and every clock, whatever
chance has to say.
-/

set_option autoImplicit false

namespace GatewayClient

variable {σ α : Type}

/-! ## Budgets -/

/-- The sleeps of an action stay inside a budget of time, which begins when the action does. -/
structure Action.KeepsBudget (x : Action Rat α) (w : World σ Rat) (s : σ) (budget : Rat) :
    Prop where
  /-- Every sleep is at most what is left of the budget by the readings of the clock. -/
  slept_le : ∀ (before : Log Rat) delay after,
    (x.runIn w s).events = before ++ .slept delay :: after →
    ∃ elapsed, before.elapsed? = some elapsed ∧ delay ≤ budget - elapsed
  /-- On every clock that never goes back, all sleeps together are at most the budget. -/
  sum_slept_le : ∀ t, Log.Advances t (x.runIn w s).events → (x.runIn w s).slept.sum ≤ budget
  /-- A world that keeps time has such a clock. By its time, every sleep is at most what is left of
  the budget when it begins, and every request begins within the budget. -/
  steps_le : ∀ sound, w.KeepsTime sound → sound s →
    Log.Advances (w.time s) (x.runIn w s).events ∧
    ∀ step ∈ x.run.steps w s,
      (∀ delay, step.2 = .slept delay → delay ≤ budget - (w.time step.1 - w.time s)) ∧
      ∀ request answer, step.2 = .sent request answer → w.time step.1 - w.time s ≤ budget

namespace Action.KeepsBudget

variable {x : Action Rat α} {w : World σ Rat} {s : σ} {budget : Rat}

/-- An action that does nothing sleeps for no time. -/
theorem of_events_nil (nothing : (x.runIn w s).events = []) (positive : 0 ≤ budget) :
    x.KeepsBudget w s budget where
  slept_le before delay after split := by simp [nothing] at split
  sum_slept_le _ _ := by
    rw [Run.slept, nothing, Log.slept_nil, List.sum_nil]
    exact positive
  steps_le sound keeps here := by
    have none : (x.run.steps w s).map (·.2) = [] := (Program.map_steps w x.run s).trans nothing
    rw [List.map_eq_nil_iff.mp none, nothing]
    exact ⟨trivial, nofun⟩

/-- Rounds whose sleeps end within the budget keep to it. -/
theorem of_paced {started : Rat} {log : Log Rat}
    (logged : (x.runIn w s).events = .clock started :: log)
    (paced : Log.Paced (fun _ => Log.Fits started budget) [.clock started] log)
    (positive : 0 ≤ budget) : x.KeepsBudget w s budget where
  slept_le before delay after split := by
    rw [logged] at split
    obtain ⟨ask, quiet, now, rfl, -, unread, fits⟩ := paced.chosen_of_begun split
    exact ⟨now - started, Log.elapsed?_of_read unread, fits.within⟩
  sum_slept_le t advances := by
    rw [logged] at advances
    have lasts := paced.sum_slept_le advances.2 (by grind)
    rw [Run.slept, logged]
    show log.slept.sum ≤ budget
    grind
  steps_le sound keeps here := by
    have timed := keeps.timed_runIn x here
    refine ⟨timed.advances, fun step mem => ⟨fun delay slept => ?_, fun request answer sent => ?_⟩⟩
    · obtain ⟨earlier, later, split⟩ := List.append_of_mem mem
      obtain ⟨starts, timed⟩ := keeps.timed_before x.run here split
      have events : (x.runIn w s).events = earlier.map (·.2) ++ step.2 :: later.map (·.2) := by
        rw [runIn, ← Program.map_steps, split, List.map_append, List.map_cons]
      rw [logged, slept] at events
      obtain ⟨ask, quiet, now, before, still, -, fits⟩ := paced.chosen_of_begun events
      rw [before] at timed
      cases timed with
      | clock timed =>
        -- Nothing that takes time comes between the last reading and the sleep.
        obtain ⟨_, _, _, -, -, read⟩ := timed.split
        cases read with
        | clock waiting =>
          obtain ⟨-, same⟩ := waiting.of_quiet still
          rw [same]
          exact fits.within
    · have start : w.time step.1 ∈ x.starts w s :=
        List.mem_filterMap.mpr ⟨step, mem, by rw [sent]; rfl⟩
      rw [logged] at timed
      generalize x.starts w s = starts at timed start
      cases timed with
      | clock timed =>
        have begun := paced.starts_le timed (by grind) _ start
        grind

end Action.KeepsBudget

/-! ## What a policy and a server ask for -/

/-- The sleeps of a log honour a policy and the server. Each of them comes after a failure, and is
at least what the policy chooses there, with the number that was drawn last if chance has a say. It
is at least what the server asks for, or what is left of the deadline if that is less. -/
def RetryPolicy.Honoured (p : RetryPolicy Rat) (log : Log Rat) : Prop :=
  ∀ (before : Log Rat) slept after, log = before ++ .slept slept :: after →
    ∃ (outcome : Outcome) (e : ApiError Rat) (elapsed : Rat),
      before.answer? = some outcome ∧ outcome.payload = .error e ∧
      before.elapsed? = some elapsed ∧
      (∀ chance, (p.isJittered = true → before.drawn.getLast? = some chance) →
        ∃ delay, p.nextDelay (before.sent.length - 1) elapsed (e.kind == .rateLimited) chance =
          .ok (some delay) ∧ delay ≤ slept) ∧
      ∀ asked, outcome.retryAfter? = some asked →
        (p.deadline = none → asked ≤ slept) ∧
          ∀ deadline, p.deadline = some deadline → min asked (deadline - elapsed) ≤ slept

/-- Chance has no say in the delays of a policy without jitter. -/
theorem RetryPolicy.nextDelay_of_still {τ : Type} [TimeScale τ] {p : RetryPolicy τ}
    (still : p.isJittered = false) (index : Nat) (elapsed : τ) (rateLimited : Bool)
    (chance other : τ) :
    p.nextDelay index elapsed rateLimited chance = p.nextDelay index elapsed rateLimited other := by
  simp only [nextDelay, still, Bool.false_eq_true, if_false]

/-- The sleeps of a call honour the policy that it follows where it may be repeated. -/
theorem Call.honoured_of_rounds {c : Call Rat} {p : RetryPolicy Rat}
    (follows : c.idempotent = true → c.policy = p) {started : Rat} {log : Log Rat}
    {r : Except (Failure Rat) Json.Fields} (rounds : c.Rounds started 0 log r) :
    p.Honoured (.clock started :: log) := by
  intro before slept after split
  have paced := rounds.paced [.clock started] rfl
  obtain ⟨ask, quiet, now, rfl, -, unread, chose⟩ := paced.chosen_of_begun split
  obtain ⟨outcome, e, drawn, delay, answered, retries, last, next, rfl⟩ := chose
  obtain rfl := follows retries.idempotent
  refine ⟨outcome, e, now - started, answered, retries.failed, Log.elapsed?_of_read unread,
    fun chance drew => ⟨delay, ?_, RetryPolicy.le_honour e.retryAfter⟩, fun asked asks => ?_⟩
  · cases jittered : c.policy.isJittered with
    | true =>
      have same : some drawn = some chance := (last jittered).symm.trans (drew jittered)
      rw [← Option.some_inj.mp same]
      exact next
    | false =>
      rw [RetryPolicy.nextDelay_of_still jittered _ _ _ chance drawn]
      exact next
  · have passed : e.retryAfter = some asked := by
      rw [Outcome.retryAfter_payload retries.failed, if_pos retries.retryable, asks]
    rw [waitFor, passed]
    exact RetryPolicy.asked_le_honour asked

/-- The sleeps of every call under an accepted policy honour the policy and the server, and stay
inside its deadline if it has one. So do the sleeps of every poll: each of them is at most what is
left, all of them together are at most the deadline, and no request begins later than that. -/
theorem sleeps_within_budget (w : World σ Rat) (s : σ) :
    (∀ (c : Client Rat) (o : CallOptions Rat) (name : String) (values : PathValues)
        (query : Query) (body : Option Bytes) (idempotent : Bool),
      (c.policyFor o).fault? = none →
      let call := c.callNamed name values query body idempotent o
      (c.policyFor o).Honoured (call.runIn w s).events ∧
        ∀ deadline, (c.policyFor o).deadline = some deadline → call.KeepsBudget w s deadline) ∧
    ∀ (_ : CancelEvent w) (p : Poll Rat), p.policy.fault? = none →
      ∀ deadline, p.policy.deadline = some deadline → p.run.KeepsBudget w s deadline := by
  refine ⟨fun c o name values query body idempotent accepted => ?_,
    fun event p accepted deadline budget => ?_⟩
  · have ran := c.rounds_of_callNamed w s name values query body idempotent o
    dsimp only at ran ⊢
    rcases ran with nothing | ⟨op, route, started, log, logged, rounds⟩
    · refine ⟨fun before slept after split => ?_, fun deadline budget => ?_⟩
      · simp [nothing] at split
      · exact .of_events_nil nothing (Rat.le_of_lt (RetryPolicy.deadline_pos accepted budget))
    · have follows : (c.callFor op route body idempotent o).idempotent = true →
          (c.callFor op route body idempotent o).policy = c.policyFor o := fun may => if_pos may
      refine ⟨logged ▸ Call.honoured_of_rounds follows rounds, fun deadline budget => ?_⟩
      have fits := (rounds.paced [.clock started] rfl).mono fun _ _ _ chose =>
        Call.fits_of_chose (follows chose.idempotent ▸ budget) chose
      exact .of_paced logged fits (Rat.le_of_lt (RetryPolicy.deadline_pos accepted budget))
  · have positive := Rat.le_of_lt (RetryPolicy.deadline_pos accepted budget)
    by_cases filled : p.hash = ""
    · have nothing : (p.run.runIn w s).events = [] := by
        rw [Poll.run, Client.require_of_empty filled]
        rfl
      exact .of_events_nil nothing positive
    · obtain ⟨started, log, logged, rounds, -⟩ := Poll.rounds_of_runIn event filled s
      have fits := (rounds.paced [.clock started]).mono fun _ _ _ => Poll.fits_of_chose budget
      exact .of_paced logged fits positive

section Pressed

/-- A gateway that is busy after a quarter of a second, and asks for two seconds. -/
def pressingGateway : Script Rat where
  now := 0
  replies :=
    [{ answer := some (.response { status := 503, headers := [("retry-after", "2")] })
       advance := 1/4 }, Script.exhausted]

/-- Under a deadline of one second, a call sleeps for what is left of it, and a poll for as long as
its own policy says. The last request of the call begins when the budget ends. -/
theorem sleeps_within_budget_pressed :
    let call := hurriedClient.callNamed "network_economics" [] [] none true {}
    let poll := Poll.run
      { client := hurriedClient, policy := hurriedClient.config.retry, hash := "ab" }
    (hurriedClient.policyFor {}).fault? = none ∧ (hurriedClient.policyFor {}).deadline = some 1 ∧
    (call.runIn Script.world pressingGateway).slept = [3/4] ∧
    (poll.runIn Script.world pressingGateway).slept = [1/2, 1/4] ∧
    (hurriedClient.policyFor {}).Honoured (call.runIn Script.world pressingGateway).events ∧
    poll.KeepsBudget Script.world pressingGateway 1 ∧
    ∀ step ∈ call.run.steps Script.world pressingGateway, ∀ request answer,
      step.2 = .sent request answer → step.1.now - 0 ≤ 1 := by
  have accepted := fault?_hurriedClient
  have forward : pressingGateway.Forward := ⟨by decide +kernel, nofun⟩
  obtain ⟨calls, polls⟩ := sleeps_within_budget Script.world pressingGateway
  obtain ⟨honoured, keeps⟩ := calls hurriedClient {} "network_economics" [] [] none true accepted
  refine ⟨accepted, rfl, by decide +kernel, by decide +kernel, honoured,
    polls Script.cancelEvent _ accepted 1 rfl, fun step mem => ?_⟩
  exact (((keeps 1 rfl).steps_le Script.Forward Script.keepsTime forward).2 step mem).2

end Pressed
end GatewayClient
