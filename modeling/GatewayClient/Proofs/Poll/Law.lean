import GatewayClient.Proofs.Poll.Rounds

/-!
# The law of a poll

What can be noticed of a poll fixes its result, and the other way round.

**Requests and sleeps take turns** (`Poll.Rounds.alternates`), there are at most as many requests as
the policy allows (`Poll.Rounds.sent_le`), and only the last of them can have an answer that decides
anything (`Poll.Rounds.undecided`).

**The end decides** (`Poll.Rounds.verdict`): the last answer, the number of requests and the time of
the last decision give the outcome. What the poll remembers is what the answers were worth, in their
order (`Poll.Rounds.result_eq`).
-/

set_option autoImplicit false

namespace GatewayClient

/-! ## Answers -/

/-- The answers that came, in order. -/
def Log.answers {τ : Type} (log : Log τ) : List Outcome := log.sent.filterMap (·.2)

variable {τ : Type}

theorem Log.answers_acts (log : Log τ) : answers (acts log) = answers log := by
  rw [answers, answers, sent_acts]

@[simp] theorem Log.answers_append (log more : Log τ) :
    answers (log ++ more) = answers log ++ answers more := by
  rw [answers, sent_append, List.filterMap_append]
  rfl

/-- The answer of the last request is the last answer. -/
theorem Log.getLast?_answers {log : Log τ} {outcome : Outcome} (last : log.answer? = some outcome) :
    log.answers.getLast? = some outcome := by
  unfold Log.answer? at last
  obtain ⟨call, ended, answered⟩ := Option.bind_eq_some_iff.mp last
  obtain ⟨calls, eq⟩ := List.getLast?_eq_some_iff.mp ended
  rw [Log.answers, eq, List.filterMap_append, List.getLast?_append]
  simp [answered]

/-- The error that a check yielded, if it did. -/
def error? {ε α : Type} : Except ε α → Option ε
  | .ok _ => none
  | .error e => some e

/-! ## What a poll remembers -/

namespace Sighting

/-- The transaction that is remembered is the last one that was seen. -/
theorem transaction_foldl (seen : Sighting τ)
    (answers : List (Except (ApiError τ) TransactionOnNetwork)) :
    (answers.foldl after seen).transaction =
      (answers.filterMap Except.toOption).getLast?.or seen.transaction := by
  induction answers generalizing seen with
  | nil => rfl
  | cons answer rest ih =>
    rw [List.foldl_cons, ih]
    cases answer with
    | error e => rfl
    | ok tx =>
      have found : (Except.ok tx :: rest).filterMap Except.toOption =
          tx :: rest.filterMap Except.toOption := rfl
      rw [found, List.getLast?_cons]
      cases (rest.filterMap Except.toOption).getLast? <;> rfl

/-- The error that is remembered is the one of the last answer, if it was one. -/
theorem error_foldl (seen : Sighting τ)
    (answers : List (Except (ApiError τ) TransactionOnNetwork)) :
    (answers.foldl after seen).error = (answers.getLast?.map error?).getD seen.error := by
  induction answers generalizing seen with
  | nil => rfl
  | cons answer rest ih =>
    rw [List.foldl_cons, ih, List.getLast?_cons]
    cases rest.getLast? with
    | none => cases answer <;> rfl
    | some last => rfl

end Sighting

namespace Poll

/-! ## Answers that decide -/

section Decides

variable {answer : Except (ApiError τ) TransactionOnNetwork}

/-- A poll succeeds at a transaction of success. -/
theorem decides_eq_succeeded :
    decides answer = some .succeeded ↔ ∃ tx, answer = .ok tx ∧ tx.status = .success := by
  cases answer with
  | ok tx => cases status : tx.status <;> simp [decides, TransactionOnNetwork.isTerminal,
      TransactionStatus.isTerminal, status]
  | error e => cases passes : e.isNotFound || e.mayPass <;> simp [decides, passes]

/-- A poll fails at a transaction that failed or is invalid. -/
theorem decides_eq_failed : decides answer = some .failed ↔
    ∃ tx, answer = .ok tx ∧ (tx.status = .failed ∨ tx.status = .invalid) := by
  cases answer with
  | ok tx => cases status : tx.status <;> simp [decides, TransactionOnNetwork.isTerminal,
      TransactionStatus.isTerminal, status]
  | error e => cases passes : e.isNotFound || e.mayPass <;> simp [decides, passes]

/-- A poll ends with an error that stays, unless it says not found. -/
theorem decides_eq_errored : decides answer = some .errored ↔
    ∃ e, answer = .error e ∧ e.isNotFound = false ∧ e.mayPass = false := by
  cases answer with
  | ok tx => cases status : tx.status <;> simp [decides, TransactionOnNetwork.isTerminal,
      TransactionStatus.isTerminal, status]
  | error e =>
    cases notFound : e.isNotFound <;> cases passes : e.mayPass <;>
      simp [decides, notFound, passes]

/-- An answer never says that the poll is out of time, or that it was cancelled. -/
theorem mem_of_decides {decision : PollOutcome} (h : decides answer = some decision) :
    decision ∈ [.succeeded, .failed, .errored] := by
  unfold decides at h
  split at h
  · split at h
    · cases h
      decide
    · split at h <;> cases h
      decide
  · split at h <;> cases h
    decide

end Decides

/-- The reading before the last one. -/
theorem getLast?_dropLast_pair (before : List τ) (now finish : τ) :
    (before ++ [now, finish]).dropLast.getLast? = some now := by
  rw [List.dropLast_append_of_ne_nil (List.cons_ne_nil _ _), List.getLast?_append]
  rfl

/-- The reading before the last one is found in the part where it stands. -/
theorem getLast?_dropLast_append {before after : List τ} {now : τ} (more : after ≠ []) :
    (before ++ now :: after).dropLast.getLast? = some (after.dropLast.getLast?.getD now) := by
  rw [List.dropLast_append_of_ne_nil (List.cons_ne_nil _ _), List.dropLast_cons_of_ne_nil more,
    List.getLast?_append, List.getLast?_cons]
  rfl

end Poll

variable [TimeScale τ]

namespace Poll

/-! ## How a poll ends -/

/-- How a poll ends whose last request became of it what is given. A poll without requests ends as
one whose request was abandoned. -/
def verdict (p : Poll τ) (made : Nat) (last : Option Outcome) (elapsed chance : τ) :
    Except Overflow PollOutcome :=
  match last with
  | none => .ok .cancelled
  | some outcome =>
    match decides (p.yield outcome) with
    | some decision => .ok decision
    | none =>
      match p.policy.nextDelay (made - 1) elapsed (rateLimits (p.yield outcome)) chance with
      | .ok none => .ok .timedOut
      | .ok (some _) => .ok .cancelled
      | .error cause => .error cause

variable {p : Poll τ} {started : τ}

section Verdict

variable {made : Nat} {outcome : Outcome} {elapsed chance : τ}

theorem verdict_decided {decision : PollOutcome}
    (decides : decides (p.yield outcome) = some decision) :
    p.verdict made (some outcome) elapsed chance = .ok decision := by
  simp only [verdict, decides]

/-- A poll whose policy has no further attempt is out of time. -/
theorem verdict_gaveUp (undecided : decides (p.yield outcome) = none)
    (spent : p.policy.isSpent made elapsed = true) :
    p.verdict (made + 1) (some outcome) elapsed chance = .ok .timedOut := by
  simp only [verdict, undecided, Nat.add_sub_cancel, RetryPolicy.nextDelay_eq_none.mpr spent]

/-- A poll that had an attempt left and did not make it was cancelled. -/
theorem verdict_cut {drawn delay : τ} (undecided : decides (p.yield outcome) = none)
    (next : p.policy.nextDelay made elapsed (rateLimits (p.yield outcome)) drawn =
      .ok (some delay)) :
    p.verdict (made + 1) (some outcome) elapsed chance = .ok .cancelled := by
  obtain ⟨delay, left⟩ := RetryPolicy.nextDelay_some_of_chance chance next
  simp only [verdict, undecided, Nat.add_sub_cancel, left]

/-- An answer that decides gives the outcome, and nothing else does. -/
theorem verdict_eq_ok {last : Option Outcome} {decision : PollOutcome}
    (decided : decision ≠ .timedOut) (went : decision ≠ .cancelled) :
    p.verdict made last elapsed chance = .ok decision ↔
      ∃ outcome, last = some outcome ∧ decides (p.yield outcome) = some decision := by
  constructor
  · intro h
    unfold verdict at h
    split at h
    next => cases h; exact absurd rfl went
    next outcome =>
      refine ⟨outcome, rfl, ?_⟩
      split at h
      next other decides => cases h; exact decides
      next =>
        split at h
        next => cases h; exact absurd rfl decided
        next => cases h; exact absurd rfl went
        next => cases h
  · rintro ⟨outcome, rfl, decides⟩
    exact verdict_decided decides

/-- A poll succeeds exactly if its last answer is a transaction of success. -/
theorem verdict_eq_succeeded {last : Option Outcome} :
    p.verdict made last elapsed chance = .ok .succeeded ↔
      ∃ outcome tx, last = some outcome ∧ p.yield outcome = .ok tx ∧ tx.status = .success := by
  rw [verdict_eq_ok (by decide) (by decide)]
  constructor
  · rintro ⟨outcome, answered, decides⟩
    obtain ⟨tx, yielded, status⟩ := decides_eq_succeeded.mp decides
    exact ⟨outcome, tx, answered, yielded, status⟩
  · rintro ⟨outcome, tx, answered, yielded, status⟩
    exact ⟨outcome, answered, decides_eq_succeeded.mpr ⟨tx, yielded, status⟩⟩

/-- A poll fails exactly if its last answer is a transaction that failed or is invalid. -/
theorem verdict_eq_failed {last : Option Outcome} :
    p.verdict made last elapsed chance = .ok .failed ↔
      ∃ outcome tx, last = some outcome ∧ p.yield outcome = .ok tx ∧
        (tx.status = .failed ∨ tx.status = .invalid) := by
  rw [verdict_eq_ok (by decide) (by decide)]
  constructor
  · rintro ⟨outcome, answered, decides⟩
    obtain ⟨tx, yielded, status⟩ := decides_eq_failed.mp decides
    exact ⟨outcome, tx, answered, yielded, status⟩
  · rintro ⟨outcome, tx, answered, yielded, status⟩
    exact ⟨outcome, answered, decides_eq_failed.mpr ⟨tx, yielded, status⟩⟩

/-- A poll ends with an error exactly if its last answer is one that stays. -/
theorem verdict_eq_errored {last : Option Outcome} :
    p.verdict made last elapsed chance = .ok .errored ↔
      ∃ outcome e, last = some outcome ∧ p.yield outcome = .error e ∧
        e.isNotFound = false ∧ e.mayPass = false := by
  rw [verdict_eq_ok (by decide) (by decide)]
  constructor
  · rintro ⟨outcome, answered, decides⟩
    obtain ⟨e, yielded, unsettled⟩ := decides_eq_errored.mp decides
    exact ⟨outcome, e, answered, yielded, unsettled⟩
  · rintro ⟨outcome, e, answered, yielded, unsettled⟩
    exact ⟨outcome, answered, decides_eq_errored.mpr ⟨e, yielded, unsettled⟩⟩

/-- A poll gives up where its policy has no further attempt, and nowhere else. -/
theorem verdict_eq_timedOut {last : Option Outcome} :
    p.verdict made last elapsed chance = .ok .timedOut ↔
      ∃ outcome, last = some outcome ∧ decides (p.yield outcome) = none ∧
        p.policy.nextDelay (made - 1) elapsed (rateLimits (p.yield outcome)) chance = .ok none := by
  constructor
  · intro h
    unfold verdict at h
    split at h
    next => cases h
    next outcome =>
      refine ⟨outcome, rfl, ?_⟩
      split at h
      next other decides =>
        cases h
        exact absurd (mem_of_decides decides) (by decide)
      next undecided =>
        refine ⟨undecided, ?_⟩
        split at h
        next spent => exact spent
        next => cases h
        next => cases h
  · rintro ⟨outcome, rfl, undecided, spent⟩
    simp only [verdict, undecided, spent]

end Verdict

/-! ## One round -/

section Round

variable {ask pause : Log τ} {answer : Option Outcome} {now chance delay : τ}

theorem sent_ask (asked : ask.acts = [.sent p.call.request answer]) :
    ask.sent = [(p.call.request, answer)] := by
  rw [← Log.sent_acts, asked]
  rfl

/-- What can be noticed of a round that another one follows. -/
theorem acts_again (asked : ask.acts = [.sent p.call.request answer])
    (paused : Action.Paused delay p.watching pause true) (log : Log τ) :
    Log.acts (ask ++ .clock now :: (p.policy.drawLog chance ++ pause ++ log)) =
      .sent p.call.request answer :: .slept delay :: log.acts := by
  simp [asked, paused.acts_full]

/-- The requests of a round that another one follows: its own comes first. -/
theorem sent_again (asked : ask.acts = [.sent p.call.request answer])
    (paused : Action.Paused delay p.watching pause true) (log : Log τ) :
    Log.sent (ask ++ .clock now :: (p.policy.drawLog chance ++ pause ++ log)) =
      (p.call.request, answer) :: log.sent := by
  rw [← Log.sent_acts, acts_again asked paused]
  simp [Log.sent_acts]

/-- The clock is read once between a query and the next round. -/
theorem readings_again (paused : Action.Paused delay p.watching pause true) (log : Log τ) :
    Log.readings (ask ++ .clock now :: (p.policy.drawLog chance ++ pause ++ log)) =
      ask.readings ++ now :: log.readings := by
  simp [paused.readings_eq]

/-- What can be noticed of a round whose pause the event cut short. -/
theorem acts_interrupted (asked : ask.acts = [.sent p.call.request answer])
    (paused : Action.Paused delay p.watching pause false) (finish : τ) :
    Log.acts (ask ++ .clock now :: (p.policy.drawLog chance ++ pause ++ [.clock finish])) =
        [.sent p.call.request answer] ∨
      Log.acts (ask ++ .clock now :: (p.policy.drawLog chance ++ pause ++ [.clock finish])) =
        [.sent p.call.request answer, .slept delay] := by
  rcases paused.acts_cut with none | once
  · exact .inl (by simp [asked, none])
  · exact .inr (by simp [asked, once])

theorem sent_interrupted (asked : ask.acts = [.sent p.call.request answer])
    (paused : Action.Paused delay p.watching pause false) (finish : τ) :
    Log.sent (ask ++ .clock now :: (p.policy.drawLog chance ++ pause ++ [.clock finish])) =
      [(p.call.request, answer)] := by
  rw [← Log.sent_acts]
  rcases acts_interrupted asked paused finish with h | h <;> rw [h] <;> rfl

/-- The clock is read once more when a poll is cut short. -/
theorem readings_interrupted (paused : Action.Paused delay p.watching pause false) (finish : τ) :
    Log.readings (ask ++ .clock now :: (p.policy.drawLog chance ++ pause ++ [.clock finish])) =
      ask.readings ++ [now, finish] := by
  simp [paused.readings_eq]

end Round

/-- A single answer is not followed by another. -/
theorem eq_of_singleton_eq_append {single outcome : Outcome} {before after : List Outcome}
    (only : [single] = before ++ outcome :: after) : outcome = single ∧ after = [] := by
  cases before <;> simp_all

/-! ## All rounds -/

namespace Rounds

variable {checks : Nat} {seen : Sighting τ} {log : Log τ}
variable {r : Except (Failure τ) (PollResult τ)}

/-- The request and sleeps take turns. -/
theorem alternates (h : p.Rounds started checks seen log r) :
    Log.Alternates p.call.request log.acts := by
  induction h with
  | stopped => exact .nil
  | abandoned asked | decided asked _ | gaveUp asked _ _ | overflowed asked _ =>
    rw [Log.acts_append, asked]
    exact .sent _
  | interrupted asked _ _ paused =>
    rcases acts_interrupted asked paused _ with once | slept
    · rw [once]
      exact .sent _
    · rw [slept]
      exact .slept .nil
  | again asked _ _ paused _ ih =>
    rw [acts_again asked paused]
    exact .slept ih

/-- There are no more requests than the policy allows. -/
theorem sent_le (h : p.Rounds started checks seen log r)
    (room : (checks : Int) < p.policy.maxAttempts) :
    (checks + log.sent.length : Int) ≤ p.policy.maxAttempts := by
  induction h with
  | stopped => exact Int.le_of_lt room
  | abandoned asked | decided asked _ | gaveUp asked _ _ | overflowed asked _ =>
    rw [Log.sent_append, sent_ask asked]
    exact room
  | interrupted asked _ _ paused =>
    rw [sent_interrupted asked paused]
    exact room
  | again asked _ next paused _ ih =>
    have unspent := RetryPolicy.lt_of_nextDelay next
    have rest := ih (by omega)
    rw [sent_again asked paused, List.length_cons]
    omega

/-- A request that another one follows had an answer that decides nothing. -/
theorem undecided (h : p.Rounds started checks seen log r) :
    ∀ call ∈ log.sent.dropLast, ∃ outcome, call.2 = some outcome ∧
      decides (p.yield outcome) = none := by
  induction h with
  | stopped => exact nofun
  | abandoned asked | decided asked _ | gaveUp asked _ _ | overflowed asked _ =>
    rw [Log.sent_append, sent_ask asked]
    exact nofun
  | interrupted asked _ _ paused =>
    rw [sent_interrupted asked paused]
    exact nofun
  | @again _ _ _ _ log outcome _ _ _ _ asked undecided _ paused _ ih =>
    rw [sent_again asked paused]
    cases sent : log.sent with
    | nil => exact nofun
    | cons first rest =>
      rw [List.dropLast_cons_cons]
      exact List.forall_mem_cons.mpr ⟨⟨outcome, rfl, undecided⟩, sent ▸ ih⟩

/-- An answer that decides is the last one, and the poll ends by it. -/
theorem ends_of_decides (h : p.Rounds started checks seen log r) {before after : List Outcome}
    {outcome : Outcome} (answers : log.answers = before ++ outcome :: after)
    {decision : PollOutcome} (decides : decides (p.yield outcome) = some decision) :
    after = [] ∧ ∃ result, r = .ok result ∧ result.outcome = decision := by
  induction h generalizing before with
  | stopped =>
    have none : [] = before ++ outcome :: after := answers
    simp at none
  | abandoned asked =>
    have none : [] = before ++ outcome :: after := by
      rw [← answers, Log.answers, Log.sent_append, sent_ask asked]
      rfl
    simp at none
  | @decided _ _ ask single verdict finish asked ended =>
    have only : [single] = before ++ outcome :: after := by
      rw [← answers, Log.answers, Log.sent_append, sent_ask asked]
      rfl
    obtain ⟨rfl, rfl⟩ := eq_of_singleton_eq_append only
    rw [ended] at decides
    cases decides
    exact ⟨rfl, _, rfl, rfl⟩
  | @gaveUp _ _ _ single _ _ _ asked undecided _ | @overflowed _ _ _ single _ _ asked undecided =>
    have only : [single] = before ++ outcome :: after := by
      rw [← answers, Log.answers, Log.sent_append, sent_ask asked]
      rfl
    obtain ⟨rfl, -⟩ := eq_of_singleton_eq_append only
    rw [undecided] at decides
    cases decides
  | @interrupted _ _ _ _ single _ _ _ _ asked undecided _ paused =>
    have only : [single] = before ++ outcome :: after := by
      rw [← answers, Log.answers, sent_interrupted asked paused]
      rfl
    obtain ⟨rfl, -⟩ := eq_of_singleton_eq_append only
    rw [undecided] at decides
    cases decides
  | again asked undecided _ paused _ ih =>
    rw [Log.answers, sent_again asked paused] at answers
    -- Either the answer of this round decides, which it does not, or it is one of those that
    -- follow.
    cases before with
    | nil =>
      obtain ⟨rfl, -⟩ := List.cons.inj answers
      rw [undecided] at decides
      cases decides
    | cons first before => exact ih (List.cons.inj answers).2

/-- The result of a poll: it counts the requests, remembers what the answers were worth, and has
taken the time up to the last reading of the clock. -/
theorem result_eq (h : p.Rounds started checks seen log r) {result : PollResult τ}
    (ok : r = .ok result) : ∃ finish, log.readings.getLast? = some finish ∧
      result = ended result.outcome started (checks + log.sent.length)
        ((log.answers.map p.yield).foldl Sighting.after seen) finish := by
  induction h with
  | @stopped checks seen finish =>
    cases ok
    exact ⟨finish, rfl, rfl⟩
  | @abandoned checks seen ask finish asked =>
    cases ok
    refine ⟨finish, by simp, ?_⟩
    rw [Log.answers, Log.sent_append, sent_ask asked]
    rfl
  | @decided checks seen ask outcome verdict finish asked _ =>
    cases ok
    refine ⟨finish, by simp, ?_⟩
    rw [Log.answers, Log.sent_append, sent_ask asked]
    rfl
  | @gaveUp checks seen ask outcome now finish warning asked _ _ =>
    cases ok
    refine ⟨finish, by simp, ?_⟩
    rw [Log.answers, Log.sent_append, sent_ask asked]
    rfl
  | overflowed => cases ok
  | @interrupted checks seen ask pause outcome now chance delay finish asked _ _ paused =>
    cases ok
    refine ⟨finish, by rw [readings_interrupted paused]; simp, ?_⟩
    rw [Log.answers, sent_interrupted asked paused]
    rfl
  -- The rest of the log counts from one more check, and ends with the last reading.
  | @again checks seen ask pause log outcome now chance delay r asked _ _ paused _ ih =>
    obtain ⟨finish, last, eq⟩ := ih ok
    refine ⟨finish, ?_, ?_⟩
    · rw [readings_again paused, List.getLast?_append, List.getLast?_cons, last]
      rfl
    · have counted : checks + 1 + log.sent.length = checks + (log.sent.length + 1) := by omega
      rw [Log.answers, sent_again asked paused, List.length_cons, ← counted]
      exact eq

/-- A poll reads the clock when it finishes. -/
theorem readings_ne_nil (h : p.Rounds started checks seen log r) {result : PollResult τ}
    (ok : r = .ok result) : log.readings ≠ [] := by
  obtain ⟨finish, last, -⟩ := h.result_eq ok
  intro none
  rw [none] at last
  cases last

/-- The end decides: the last answer, the number of requests, and the time of the last decision,
which is the reading before the last one. Only a poll that is stopped at once has no request. -/
theorem verdict (h : p.Rounds started checks seen log r) {result : PollResult τ}
    (ok : r = .ok result) :
    (∃ finish, log = [.cancelled true, .clock finish]) ∧ result.outcome = .cancelled ∨
      log.sent ≠ [] ∧ ∀ before chance, p.verdict (checks + log.sent.length) log.answer?
        (log.readings.dropLast.getLast?.getD before - started) chance = .ok result.outcome := by
  induction h with
  | stopped =>
    cases ok
    exact .inl ⟨⟨_, rfl⟩, rfl⟩
  | abandoned asked =>
    cases ok
    refine .inr ⟨by simp [sent_ask asked], fun before chance => ?_⟩
    rw [Log.answer?, Log.sent_append, sent_ask asked]
    rfl
  | decided asked decides =>
    cases ok
    refine .inr ⟨by simp [sent_ask asked], fun before chance => ?_⟩
    rw [Log.answer?, Log.sent_append, sent_ask asked]
    exact verdict_decided decides
  | @gaveUp _ _ ask _ now finish warning asked undecided spent =>
    cases ok
    refine .inr ⟨by simp [sent_ask asked], fun before chance => ?_⟩
    have readings : Log.readings (ask ++ [.clock now, .warned warning, .clock finish]) =
        ask.readings ++ [now, finish] := by simp
    rw [Log.answer?, Log.sent_append, sent_ask asked, readings, getLast?_dropLast_pair]
    exact verdict_gaveUp undecided spent
  | overflowed => cases ok
  | interrupted asked undecided next paused =>
    cases ok
    refine .inr ⟨?_, fun before chance => ?_⟩
    · rw [sent_interrupted asked paused]
      exact List.cons_ne_nil _ _
    · rw [Log.answer?, sent_interrupted asked paused, readings_interrupted paused,
        getLast?_dropLast_pair]
      exact verdict_cut undecided next
  | @again _ _ _ _ log _ now _ _ _ asked undecided next paused rest ih =>
    have read : log.readings ≠ [] := rest.readings_ne_nil ok
    refine .inr ⟨?_, fun before chance => ?_⟩
    · rw [sent_again asked paused]
      exact List.cons_ne_nil _ _
    · rw [Log.answer?, sent_again asked paused, readings_again paused,
        getLast?_dropLast_append read]
      rcases ih ok with ⟨⟨finish, rfl⟩, cancelled⟩ | ⟨sent, decided⟩
      · rw [cancelled]
        exact verdict_cut undecided next
      · rw [List.getLast?_cons_of_ne_nil sent, ← decided now chance, Option.getD_some,
          List.length_cons, Nat.add_assoc, Nat.add_comm 1]
        rfl

/-- A cancelled poll saw the event set, or left a request for it. -/
theorem signalled (h : p.Rounds started checks seen log r) {result : PollResult τ}
    (ok : r = .ok result) (cancelled : result.outcome = .cancelled) :
    .cancelled true ∈ log ∨ .sent p.call.request none ∈ log := by
  induction h with
  | stopped => exact .inl (.head _)
  | @abandoned _ _ ask _ asked =>
    have left : .sent p.call.request none ∈ ask.acts := asked ▸ List.mem_singleton_self _
    exact .inr (List.mem_append_left _ (List.mem_filter.mp left).1)
  | @decided _ _ _ outcome verdict _ _ decides =>
    cases ok
    have ended : verdict = .cancelled := cancelled
    rw [ended] at decides
    exact absurd (mem_of_decides decides) (by decide)
  | gaveUp => cases ok; cases cancelled
  | overflowed => cases ok
  | interrupted _ _ _ paused =>
    refine .inl (List.mem_append_right _ (.tail _ ?_))
    exact List.mem_append_left _ (List.mem_append_right _ paused.cancelled_mem)
  | again _ _ _ _ _ ih =>
    refine (ih ok).imp (fun seen => ?_) fun left => ?_
    · exact List.mem_append_right _ (.tail _ (List.mem_append_right _ seen))
    · exact List.mem_append_right _ (.tail _ (List.mem_append_right _ left))

/-! ## A whole poll -/

section Whole

variable {result : PollResult τ}

/-- The outcome of a whole poll, by its end. -/
theorem outcome_eq_iff (h : p.Rounds started 0 seen log (.ok result)) (chance : τ)
    {decision : PollOutcome} : result.outcome = decision ↔ p.verdict log.sent.length log.answer?
      (log.readings.dropLast.getLast?.getD started - started) chance = .ok decision := by
  have decided : p.verdict log.sent.length log.answer?
      (log.readings.dropLast.getLast?.getD started - started) chance = .ok result.outcome := by
    rcases h.verdict rfl with ⟨⟨finish, rfl⟩, cancelled⟩ | ⟨-, decided⟩
    · rw [cancelled]
      rfl
    · rw [← decided started chance, Nat.zero_add]
  rw [decided, Except.ok.injEq]

/-- A whole poll remembers the last transaction that an answer had. -/
theorem transaction_eq (h : p.Rounds started checks {} log (.ok result)) :
    result.transaction = ((log.answers.map p.yield).filterMap Except.toOption).getLast? := by
  obtain ⟨finish, -, eq⟩ := h.result_eq rfl
  rw [eq]
  exact (Sighting.transaction_foldl {} _).trans Option.or_none

/-- A whole poll remembers the error of its last answer. -/
theorem error_eq (h : p.Rounds started checks {} log (.ok result)) :
    result.error = (log.answers.map p.yield).getLast?.bind error? := by
  obtain ⟨finish, -, eq⟩ := h.result_eq rfl
  rw [eq]
  apply (Sighting.error_foldl {} _).trans
  cases (log.answers.map p.yield).getLast? <;> rfl

/-- The error that ends a poll is the one that it remembers. -/
theorem errored_iff (h : p.Rounds started 0 {} log (.ok result)) : result.outcome = .errored ↔
    ∃ outcome e, log.answer? = some outcome ∧ p.yield outcome = .error e ∧
      e.isNotFound = false ∧ e.mayPass = false ∧ result.error = some e := by
  rw [h.outcome_eq_iff started, verdict_eq_errored]
  constructor
  · rintro ⟨outcome, e, answered, yielded, known, final⟩
    have remembered : result.error = some e := by
      rw [h.error_eq, List.getLast?_map, Log.getLast?_answers answered, Option.map_some, yielded]
      rfl
    exact ⟨outcome, e, answered, yielded, known, final, remembered⟩
  · rintro ⟨outcome, e, answered, yielded, known, final, -⟩
    exact ⟨outcome, e, answered, yielded, known, final⟩

end Whole

end Rounds

/-! ## The law of polls -/

/-- What holds of a whole poll by its log and its result. `elapsed` is the time from the first
reading of the clock to the last one before the poll finished. -/
structure Law (p : Poll τ) (elapsed : τ) (log : Log τ) (result : PollResult τ) : Prop where
  alternates : Log.Alternates p.call.request log.acts
  attempts_eq : result.attempts = log.sent.length
  attempts_le : (result.attempts : Int) ≤ p.policy.maxAttempts
  /-- Only the last query can decide. -/
  undecided : ∀ call ∈ log.sent.dropLast, ∃ outcome, call.2 = some outcome ∧
    decides (p.yield outcome) = none
  verdict : ∀ chance, p.verdict result.attempts log.answer? elapsed chance = .ok result.outcome
  succeeded_iff : result.outcome = .succeeded ↔
    ∃ outcome tx, log.answer? = some outcome ∧ p.yield outcome = .ok tx ∧ tx.status = .success
  failed_iff : result.outcome = .failed ↔
    ∃ outcome tx, log.answer? = some outcome ∧ p.yield outcome = .ok tx ∧
      (tx.status = .failed ∨ tx.status = .invalid)
  errored_iff : result.outcome = .errored ↔
    ∃ outcome e, log.answer? = some outcome ∧ p.yield outcome = .error e ∧
      e.isNotFound = false ∧ e.mayPass = false ∧ result.error = some e
  timedOut_iff : ∀ chance, result.outcome = .timedOut ↔
    ∃ outcome, log.answer? = some outcome ∧ decides (p.yield outcome) = none ∧
      p.policy.nextDelay (result.attempts - 1) elapsed (rateLimits (p.yield outcome)) chance =
        .ok none
  /-- The transaction is the last one that an answer had, however late the errors after it. -/
  transaction_eq : result.transaction =
    ((log.answers.map p.yield).filterMap Except.toOption).getLast?
  /-- The error is the one of the last answer. A transaction after it takes it back. -/
  error_eq : result.error = (log.answers.map p.yield).getLast?.bind error?

/-- A poll that ends with a result keeps to the law. -/
theorem law_of_rounds (allowed : 1 ≤ p.policy.maxAttempts) {log : Log τ} {result : PollResult τ}
    (rounds : p.Rounds started 0 {} log (.ok result)) :
    ∃ decision last, (started :: log.readings).dropLast.getLast? = some decision ∧
      (started :: log.readings).getLast? = some last ∧ result.elapsed = last - started ∧
      p.Law (decision - started) (.clock started :: log) result := by
  obtain ⟨last, read, eq⟩ := rounds.result_eq rfl
  have made : result.attempts = log.sent.length := by
    rw [eq]
    exact Nat.zero_add _
  refine ⟨log.readings.dropLast.getLast?.getD started, last, ?_, ?_, ?_, ?_⟩
  · rw [List.dropLast_cons_of_ne_nil (rounds.readings_ne_nil rfl), List.getLast?_cons]
  · rw [List.getLast?_cons, read]
    rfl
  · rw [eq]
    rfl
  · exact
      { alternates := rounds.alternates
        attempts_eq := made
        attempts_le := by
          rw [made]
          simpa using rounds.sent_le (by omega)
        undecided := rounds.undecided
        verdict := fun chance => by
          rw [made]
          exact (rounds.outcome_eq_iff chance).mp rfl
        succeeded_iff := (rounds.outcome_eq_iff started).trans verdict_eq_succeeded
        failed_iff := (rounds.outcome_eq_iff started).trans verdict_eq_failed
        errored_iff := rounds.errored_iff
        timedOut_iff := fun chance => by
          rw [made]
          exact (rounds.outcome_eq_iff chance).trans verdict_eq_timedOut
        transaction_eq := rounds.transaction_eq
        error_eq := rounds.error_eq }

/-- A poll of a transaction, under any accepted policy, keeps to the law of polls in every world,
and is cancelled only if the event is set. It ends with a result unless a delay of its policy is
beyond the scale. -/
theorem run_lawful {σ : Type} {w : World σ τ} (event : CancelEvent w) (p : Poll τ)
    (filled : p.hash ≠ "") (accepted : p.policy.fault? = none) (s : σ) :
    let r := p.run.runIn w s
    (p.policy.Overflows ∧ ∃ cause, r.result = .error (.overflow cause)) ∨
      ∃ result first decision last, r.result = .ok result ∧
        r.events.readings.head? = some first ∧
        r.events.readings.dropLast.getLast? = some decision ∧
        r.events.readings.getLast? = some last ∧ result.elapsed = last - first ∧
        p.Law (decision - first) r.events result ∧
        (result.outcome = .cancelled → event.isSet r.state = true) := by
  obtain ⟨started, rest, logged, rounds, before, signal⟩ := rounds_of_runIn event filled s
  have expected := (p.behaves_run.of_runIn w s).2
  dsimp only
  rw [logged]
  cases ended : (p.run.runIn w s).result with
  | error failure =>
    rw [ended] at expected
    obtain ⟨kind, typed⟩ := expected
    cases failure with
    | api e => exact absurd rfl (typed e)
    | argument _ | unencodable _ => exact absurd filled kind
    | overflow cause => exact .inl ⟨kind, cause, rfl⟩
    | undecodable what => exact kind.elim
  | ok result =>
    rw [ended] at rounds
    obtain ⟨decision, last, decided, read, elapsed, law⟩ :=
      law_of_rounds (RetryPolicy.one_le_maxAttempts accepted) rounds
    refine .inr ⟨result, started, decision, last, rfl, rfl, decided, read, elapsed, law, ?_⟩
    intro cancelled
    rcases rounds.signalled rfl cancelled with seen | left
    · exact signal.set_of_cancelled seen
    · exact signal.set_of_abandoned left

/-- A poll of a transaction that the node does not know keeps to the law of polls. -/
theorem run_lawful_unknown :
    let poll : Poll Float := { client := .onThisMachine, policy := defaultPollPolicy, hash := "ab" }
    let unknown : Reply Float := ⟨some (.response { status := 404 }), 0.25, false⟩
    let r := poll.run.runIn Script.world { now := 0.0, replies := [unknown] }
    (poll.policy.Overflows ∧ ∃ cause, r.result = .error (.overflow cause)) ∨
      ∃ result first decision last, r.result = .ok result ∧
        r.events.readings.head? = some first ∧
        r.events.readings.dropLast.getLast? = some decision ∧
        r.events.readings.getLast? = some last ∧ result.elapsed = last - first ∧
        poll.Law (decision - first) r.events result ∧
        (result.outcome = .cancelled → Script.cancelEvent.isSet r.state = true) :=
  run_lawful Script.cancelEvent
    { client := .onThisMachine, policy := defaultPollPolicy, hash := "ab" } (by decide)
    (Option.isNone_iff_eq_none.mp (by decide +kernel)) _

end Poll
end GatewayClient
