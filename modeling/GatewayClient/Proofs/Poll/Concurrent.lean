import GatewayClient.Poll.Batch
import GatewayClient.Proofs.Percent
import GatewayClient.Proofs.Poll.Steps
import GatewayClient.Proofs.Program.Interleaving

/-!
# Polls side by side

Several transactions are waited for by as many loops, which run side by side. What they have in
common is a gateway and the sources of chance (`Surroundings`). The gateway answers by the hash that
it is asked for and by how often it has been asked for it before, and each loop has its own clock.

**Polls do not interfere** (`Poll.concurrent_law`). However their steps are interleaved, the loop of
a hash does what a poll of that hash does alone, as far as the schedule lets it come. Once all are
done, the result of each stands under its hash, and a hash that was given twice has been polled
once. So a batch that runs its polls one by one, each in a world of its own, gathers the same
(`Poll.gather_pool_eq_runMany`).

The policy has no jitter: a number that one loop draws is gone for the others.
-/

set_option autoImplicit false

namespace GatewayClient

variable {τ : Type}

/-! ## What a step concerns -/

/-- The hash of the transaction that a request asks a gateway for: what stands behind the fixed part
of the path, up to the query. A request for something else has no hash worth the name. -/
def Request.subject (baseUrl : String) (request : Request τ) : String :=
  let rest := request.url.toList.drop (baseUrl ++ "/transaction/").toList.length
  (Percent.decode? (rest.takeWhile (· != '?'))).getD ""

/-- The step asks for no other transaction than one of a hash, and draws nothing. -/
def Event.Concerns (baseUrl hash : String) : Event τ → Prop
  | .sent request _ => request.subject baseUrl = hash
  | .drew .. => False
  | _ => True

/-- The requests of a log for the transaction of a hash. -/
def Log.askedFor (baseUrl hash : String) (log : Log τ) : List (Request τ × Option Outcome) :=
  log.filterMap fun e => e.sent?.filter fun call => call.1.subject baseUrl == hash

namespace Event.Concerns

variable {baseUrl hash : String} {e : Event τ}

/-- A step that concerns a hash asks for it, if it asks for something. -/
theorem askedFor_eq (h : e.Concerns baseUrl hash) :
    (e.sent?.filter fun call => call.1.subject baseUrl == hash) = e.sent? := by
  cases e with
  | sent request answer =>
    have own : request.subject baseUrl = hash := h
    simp [own]
  | slept _ | clock _ | cancelled _ | drew _ _ | warned _ => rfl

/-- A step that concerns another hash does not ask for this one. -/
theorem askedFor_eq_none {other : String} (h : e.Concerns baseUrl other) (apart : other ≠ hash) :
    (e.sent?.filter fun call => call.1.subject baseUrl == hash) = none := by
  cases e with
  | sent request answer =>
    have own : request.subject baseUrl = other := h
    simp [own, apart]
  | slept _ | clock _ | cancelled _ | drew _ _ | warned _ => rfl

/-- Where all steps concern one hash, all requests are for it. -/
theorem askedFor_log {log : Log τ} (h : ∀ e ∈ log, e.Concerns baseUrl hash) :
    log.askedFor baseUrl hash = log.sent :=
  List.filterMap_congr fun e mem => (h e mem).askedFor_eq

end Event.Concerns

/-! ## What is shared -/

/-- How often each hash has been asked for, and how many numbers each source has given. -/
structure Ledger where
  queries : String → Nat := fun _ => 0
  draws : Nat → Nat := fun _ => 0

namespace Ledger

/-- One more query of a hash. -/
def ask (hash : String) (ledger : Ledger) : Ledger :=
  { ledger with queries := fun other => ledger.queries other + if other = hash then 1 else 0 }

/-- One more number of a source. -/
def draw (source : Nat) (ledger : Ledger) : Ledger :=
  { ledger with draws := fun other => ledger.draws other + if other = source then 1 else 0 }

end Ledger

/-- What loops have around them that run side by side: the answers of a gateway to a hash and how
long they take, each by how often the hash has been asked for before, and the numbers of each source
of chance. -/
structure Surroundings (τ : Type) where
  answer : String → Nat → Outcome
  advance : String → Nat → τ
  chance : Nat → Nat → τ

namespace Surroundings

variable [TimeScale τ] (around : Surroundings τ) (baseUrl : String)

/-- Answer a query of a hash. It takes the time of whoever asks. -/
def meet (hash : String) (s : Ledger × τ) : Outcome × Ledger × τ :=
  let asked := s.1.queries hash
  (around.answer hash asked, s.1.ask hash, s.2 + around.advance hash asked)

/-- The world that a loop sees: the ledger is shared by all, the clock is its own. No cancel event
is ever set in it. -/
def world : World (Ledger × τ) τ where
  send request s := around.meet (request.subject baseUrl) s
  sendWatched request s :=
    let (answer, s) := around.meet (request.subject baseUrl) s
    (some answer, s)
  sleep delay s := (s.1, s.2 + delay)
  clock s := (s.2, s)
  cancelled s := (false, s)
  draw source s := (around.chance source (s.1.draws source), s.1.draw source, s.2)

/-- Those who ask for different hashes do not meet. -/
theorem parted : (around.world baseUrl).Parted (fun hash (ledger : Ledger) => ledger.queries hash)
    (Event.Concerns baseUrl) where
  -- What a step does depends on the queries of its own hash only.
  same_step := by
    intro α p q e hash s t s' own own' alike step within
    cases p with
    | done _ => cases step
    | send request next | sendWatched request next =>
      cases step
      obtain rfl : request.subject baseUrl = hash := within
      refine ⟨t.ask (request.subject baseUrl), ?_, ?_⟩
      · simp only [Program.step?, world, meet, alike]
      · simp only [Ledger.ask, alike]
    | draw source next =>
      cases step
      cases within
    | sleep _ _ | clock _ | cancelled _ | warn _ _ =>
      cases step
      exact ⟨t, rfl, alike⟩
  -- A query of another hash is counted elsewhere.
  unseen := by
    intro α p q e hash other s s' own own' apart step within
    cases p with
    | done _ => cases step
    | send request next | sendWatched request next =>
      cases step
      obtain rfl : request.subject baseUrl = other := within
      simp [Ledger.ask, apart]
    | draw source next =>
      cases step
      cases within
    | sleep _ _ | clock _ | cancelled _ | warn _ _ =>
      cases step
      rfl

end Surroundings

/-- No hash is left twice. -/
theorem nodup_eraseDups : ∀ hashes : List String, hashes.eraseDups.Nodup
  | [] => by simp
  | hash :: hashes => by
    rw [List.eraseDups_cons]
    refine List.nodup_cons.mpr ⟨?_, nodup_eraseDups _⟩
    simp
termination_by hashes => hashes.length
decreasing_by exact Nat.lt_succ_of_le (List.length_filter_le ..)

/-! ## Results side by side -/

namespace PollRun

variable {σ : Type} (run : String → Run σ τ (Except (Failure τ) (PollResult τ)))
variable {hashes : List String}

/-- Where each poll has a result, these are taken in their order, each under its hash. -/
theorem exists_settled (ok : ∀ hash ∈ hashes, ∃ result, (run hash).result = .ok result) :
    ∃ results, (hashes.map fun hash => (⟨hash, run hash⟩ : PollRun σ τ)).mapM settled =
        .ok results ∧
      results.map Prod.fst = hashes ∧ ∀ entry ∈ results, (run entry.1).result = .ok entry.2 := by
  induction hashes with
  | nil => exact ⟨[], rfl, rfl, List.forall_mem_nil _⟩
  | cons hash hashes ih =>
    obtain ⟨⟨result, here⟩, rest⟩ := List.forall_mem_cons.mp ok
    obtain ⟨results, gathered, keys, each⟩ := ih rest
    refine ⟨(hash, result) :: results, ?_, ?_, List.forall_mem_cons.mpr ⟨here, each⟩⟩
    · rw [List.map_cons, List.mapM_cons, gathered, settled, here]
      rfl
    · rw [List.map_cons, keys]

/-- Where no poll fails, no argument was refused, and the results are gathered. -/
theorem exists_gather (ok : ∀ hash ∈ hashes, ∃ result, (run hash).result = .ok result) :
    ∃ results, gather (hashes.map fun hash => (⟨hash, run hash⟩ : PollRun σ τ)) = .ok results ∧
      results.map Prod.fst = hashes ∧ ∀ entry ∈ results, (run entry.1).result = .ok entry.2 := by
  have unrefused : (hashes.map fun hash => (⟨hash, run hash⟩ : PollRun σ τ)).findSome? refusal? =
      none := by
    rw [List.findSome?_eq_none_iff]
    intro r mem
    obtain ⟨hash, given, rfl⟩ := List.mem_map.mp mem
    obtain ⟨result, settled⟩ := ok hash given
    rw [refusal?, settled]
  simp only [gather, unrefused]
  exact exists_settled run ok

end PollRun

variable [TimeScale τ]

namespace Poll

/-! ## The footprint of a poll -/

section Footprint

variable {p : Poll τ}

/-- The request of a poll asks for its hash, whatever characters the hash is made of. -/
theorem subject_call : p.call.request.subject p.client.config.baseUrl = p.hash := by
  have url : p.call.request.url.toList = (p.client.config.baseUrl ++ "/transaction/").toList ++
      ((Percent.encode p.hash).toList ++
        (if p.withResults then "?withResults=true" else "").toList) := by
    rw [url_call]
    simp only [String.toList_append, List.append_assoc]
  -- Encoding leaves no question mark, so the hash ends where the query begins.
  have segment : ((Percent.encode p.hash).toList ++
      (if p.withResults then "?withResults=true" else "").toList).takeWhile (· != '?') =
        (Percent.encode p.hash).toList := by
    have plain : ∀ c ∈ (Percent.encode p.hash).toList, (c != '?') = true := by
      intro c mem
      rw [bne_iff_ne]
      rintro rfl
      exact Percent.not_mem_encode (by decide) mem
    rw [List.takeWhile_append_of_pos plain]
    split <;> simp
  rw [Request.subject, url, List.drop_left, segment, Percent.decode?_encode, Option.getD_some]

/-- A query asks for the transaction and draws nothing. -/
theorem keeps_query (filled : p.hash ≠ "") {P : Event τ → Prop}
    (asks : ∀ answer, P (.sent p.call.request answer))
    (others : ∀ e, e.sent? = none → e.isDraw = false → P e) :
    Program.Keeps P (p.client.getTransaction p.hash p.withResults
      { policy := some .single, watching := p.watching }).run := by
  rw [getTransaction_eq filled]
  refine Action.keeps_bind (Call.keeps_run (Int.le_refl 1) asks others) fun data => ?_
  intro log r traces e mem
  obtain ⟨warning, rfl⟩ := (aside_read data).quiet traces e mem
  exact others _ rfl rfl

/-- A poll without jitter concerns its hash alone. -/
theorem does_concern (filled : p.hash ≠ "") (still : p.policy.isJittered = false) :
    p.Does (Event.Concerns p.client.config.baseUrl p.hash) := by
  have others : ∀ e : Event τ, e.sent? = none → e.isDraw = false →
      e.Concerns p.client.config.baseUrl p.hash := by
    intro e silent undrawn
    cases e with
    | sent _ _ => cases silent
    | drew _ _ => cases undrawn
    | slept _ | clock _ | cancelled _ | warned _ => trivial
  refine ⟨keeps_query filled (fun _ => subject_call) others, fun jittered => ?_, others⟩
  rw [still] at jittered
  cases jittered

end Footprint

variable (p : Poll τ) (around : Surroundings τ) (ledger : Ledger) (start : String → τ)

/-- The poll of a hash where there is no other one. -/
def lone (hash : String) : Run (Ledger × τ) τ (Except (Failure τ) (PollResult τ)) :=
  ({ p with hash } : Poll τ).run.runIn (around.world p.client.config.baseUrl) (ledger, start hash)

/-- The loops of several hashes, none of which has made a step, with the clock of each. -/
def pool (hashes : List String) : Pool Ledger τ τ (Except (Failure τ) (PollResult τ)) :=
  { shared := ledger
    loops := (p.many hashes).map fun poll =>
      { program := poll.run.run, own := start poll.hash } }

variable {p} {around} {ledger} {start}

/-- A poll of a hash has a result unless a delay is beyond the scale. -/
theorem exists_result_lone {hash : String} (filled : hash ≠ "")
    (expressible : ∀ cause, (p.lone around ledger start hash).result ≠ .error (.overflow cause)) :
    ∃ result, (p.lone around ledger start hash).result = .ok result := by
  have expected := ((behaves_run { p with hash }).of_runIn (around.world p.client.config.baseUrl)
    (ledger, start hash)).2
  change Action.Meets _ _ (p.lone around ledger start hash).result at expected
  cases ended : (p.lone around ledger start hash).result with
  | ok result => exact ⟨result, rfl⟩
  | error failure =>
    rw [ended] at expected expressible
    obtain ⟨kind, unraised⟩ := expected
    cases failure with
    | api e => exact absurd rfl (unraised e)
    | argument _ | unencodable _ => exact absurd filled kind
    | overflow cause => exact absurd rfl (expressible cause)
    | undecodable _ => exact kind.elim

/-! ## The law of concurrent polls -/

section Concurrent

variable (p) (around) (ledger) (start) {hashes : List String} (filled : ∀ hash ∈ hashes, hash ≠ "")
variable (still : p.policy.isJittered = false)
include filled still

/-- The loop of a hash concerns the hash alone. -/
theorem keeps_run {hash : String} (given : hash ∈ hashes.eraseDups) :
    Program.Keeps (Event.Concerns p.client.config.baseUrl hash)
      ({ p with hash } : Poll τ).run.run :=
  (ensures_run (does_concern (p := { p with hash }) (filled hash (List.mem_eraseDups.mp given))
    still)).keeps

/-- However their steps are interleaved, the loops of different hashes stay apart. -/
theorem apart_pool (schedule : List Nat) :
    ((p.pool ledger start hashes).follow (around.world p.client.config.baseUrl) schedule).Apart
      (around.world p.client.config.baseUrl) (Event.Concerns p.client.config.baseUrl)
      hashes.eraseDups
      (fun hash => ({ p with hash } : Poll τ).run.run.runAlone
        (around.world p.client.config.baseUrl) ledger (start hash)) schedule := by
  have fresh : p.pool ledger start hashes =
      .fresh ledger hashes.eraseDups (fun hash => ({ p with hash } : Poll τ).run.run) start := by
    rw [pool, many, List.map_map]
    rfl
  rw [fresh]
  exact (Pool.apart_fresh ledger _ start fun hash given => keeps_run p filled still given).follow
    (around.parted _) (nodup_eraseDups hashes) schedule

/-- Whatever the gateway has got for a hash, the loop of the hash has sent. -/
theorem askedFor_of_place (schedule : List Nat) {i : Nat} {hash : String}
    (place : hashes.eraseDups[i]? = some hash) :
    let pool := (p.pool ledger start hashes).follow (around.world p.client.config.baseUrl) schedule
    Log.askedFor p.client.config.baseUrl hash (pool.log.map Prod.snd) = (pool.logOf i).sent := by
  intro pool
  have apart := apart_pool p around ledger start filled still schedule
  have keeps := keeps_run p filled still (List.mem_of_getElem? place)
  have concern : ∀ e ∈ pool.logOf i, e.Concerns p.client.config.baseUrl hash := by
    rw [apart.logOf_eq place]
    intro e mem
    exact keeps.runAlone _ _ _ e (List.mem_of_mem_take mem)
  rw [Log.askedFor, apart.filterMap_log (nodup_eraseDups hashes) place
    fun other e within different => within.askedFor_eq_none different]
  exact Event.Concerns.askedFor_log concern

/-- It has got nothing for a hash that was not given. -/
theorem askedFor_of_not_mem (schedule : List Nat) {hash : String} (absent : hash ∉ hashes) :
    let pool := (p.pool ledger start hashes).follow (around.world p.client.config.baseUrl) schedule
    Log.askedFor p.client.config.baseUrl hash (pool.log.map Prod.snd) = [] := by
  intro pool
  have apart := apart_pool p around ledger start filled still schedule
  refine apart.filterMap_log_eq_nil fun other listed e within => ?_
  apply within.askedFor_eq_none
  rintro rfl
  exact absent (List.mem_eraseDups.mp listed)

/-- Where all start at one time, nothing is lost by running the polls one by one, each in a world of
its own: what is gathered is the same. -/
theorem gather_pool_eq_runMany (now : τ) (schedule : List Nat)
    {runs : List (Run τ τ (Except (Failure τ) (PollResult τ)))}
    (done : ((p.pool ledger (fun _ => now) hashes).follow
      (around.world p.client.config.baseUrl) schedule).runs? = some runs) :
    PollRun.gather (List.zipWith PollRun.mk hashes.eraseDups runs) =
      PollRun.gather (p.runMany hashes (around.world p.client.config.baseUrl) (ledger, now)) := by
  have apart := apart_pool p around ledger (fun _ => now) filled still schedule
  obtain ⟨-, rfl⟩ := apart.runs?_eq_some_iff.mp done
  rw [List.zipWith_map_right, List.zipWith_self, runMany, many, List.map_map]
  simp only [PollRun.gather, List.findSome?_map, List.mapM_map]
  rfl

/-- **Polls do not interfere.** Take any hashes, none of them empty, and a policy without jitter
under which no poll alone finds a delay beyond the scale. After any schedule the loop of each hash
has made the first steps of the poll alone, one for each of its turns, and all are done where each
has had a turn for every step. Then the gateway has got for each hash the requests of the poll
alone, the loop of the hash has slept as that does, and the results are those of the polls alone, in
the order in which the hashes first came. -/
theorem concurrent_law
    (expressible : ∀ hash ∈ hashes, ∀ cause,
      (p.lone around ledger start hash).result ≠ .error (.overflow cause))
    (schedule : List Nat) :
    let lone := p.lone around ledger start
    let pool := (p.pool ledger start hashes).follow (around.world p.client.config.baseUrl) schedule
    (∀ i hash, hashes.eraseDups[i]? = some hash →
      pool.logOf i = (lone hash).events.take (schedule.count i)) ∧
    ((∃ runs, pool.runs? = some runs) ↔ ∀ i hash, hashes.eraseDups[i]? = some hash →
      (lone hash).events.length ≤ schedule.count i) ∧
    ∀ runs, pool.runs? = some runs →
      (∀ hash, Log.askedFor p.client.config.baseUrl hash (pool.log.map Prod.snd) =
        if hash ∈ hashes then (lone hash).sent else []) ∧
      (∀ i hash, hashes.eraseDups[i]? = some hash → (pool.logOf i).slept = (lone hash).slept) ∧
      ∃ results, PollRun.gather (List.zipWith PollRun.mk hashes.eraseDups runs) = .ok results ∧
        results.map Prod.fst = hashes.eraseDups ∧
        ∀ entry ∈ results, (lone entry.1).result = .ok entry.2 := by
  intro lone pool
  have apart := apart_pool p around ledger start filled still schedule
  have progress : ∀ i hash, hashes.eraseDups[i]? = some hash →
      pool.logOf i = (lone hash).events.take (schedule.count i) :=
    fun i hash place => apart.logOf_eq place
  refine ⟨progress, ⟨?_, fun all => ?_⟩, fun runs done => ?_⟩
  · rintro ⟨runs, done⟩
    exact (apart.runs?_eq_some_iff.mp done).1
  · exact ⟨_, apart.runs?_eq_some_iff.mpr ⟨all, rfl⟩⟩
  · obtain ⟨all, rfl⟩ := apart.runs?_eq_some_iff.mp done
    -- Where all are done, the schedule had room for every step of each loop.
    have whole : ∀ i hash, hashes.eraseDups[i]? = some hash →
        pool.logOf i = (lone hash).events := by
      intro i hash place
      rw [progress i hash place]
      exact List.take_of_length_le (all i hash place)
    refine ⟨fun hash => ?_, fun i hash place => ?_, ?_⟩
    · by_cases given : hash ∈ hashes
      · obtain ⟨i, place⟩ := List.getElem?_of_mem (List.mem_eraseDups.mpr given)
        rw [if_pos given, Run.sent, ← whole i hash place]
        exact askedFor_of_place p around ledger start filled still schedule place
      · rw [if_neg given]
        exact askedFor_of_not_mem p around ledger start filled still schedule given
    · rw [whole i hash place]
      rfl
    · rw [List.zipWith_map_right, List.zipWith_self]
      refine PollRun.exists_gather _ fun hash given => ?_
      have mem := List.mem_eraseDups.mp given
      exact exists_result_lone (filled hash mem) (expressible hash mem)

end Concurrent

/-! ## A hash that is given twice -/

section Repeated

/-- What a node says of a transaction that was executed. -/
def executed : Outcome :=
  .response
    { status := 200
      content := Bytes.ofText ("\x7b\"data\":\x7b\"transaction\":\x7b\"sender\":\"drt1\","
        ++ "\"receiver\":\"drt2\",\"nonce\":7,\"value\":\"1\",\"status\":\"success\"\x7d\x7d,"
        ++ "\"error\":\"\",\"code\":\"successful\"\x7d") }

/-- The gateway is busy when it is first asked for the transaction `a/b`, and has it executed later.
Every other request is a bad one. -/
def busyThenDone : Surroundings Float where
  answer hash asked :=
    if hash = "a/b" then if asked = 0 then .response { status := 503 } else executed
    else .response { status := 400 }
  advance _ _ := 0.25
  chance _ _ := 0.5

/-- A poll each second. -/
def eachSecond : Poll Float := { client := .onThisMachine, policy := defaultPollPolicy, hash := "" }

/-- Three hashes, of which one is given twice. The loop of the second one is over before that of the
first has judged its first answer. -/
def interleaved : Pool Ledger Float Float (Except (Failure Float) (PollResult Float)) :=
  (eachSecond.pool {} (fun _ => 0.0) ["a/b", "cd", "a/b"]).follow
    (busyThenDone.world eachSecond.client.config.baseUrl)
    (List.replicate 3 0 ++ List.replicate 5 1 ++ List.replicate 7 0)

/-- The hash that is given twice is polled once, with the two requests that it takes. -/
theorem concurrent_law_repeated :
    let lone := eachSecond.lone busyThenDone {} fun _ => 0.0
    (∀ hash ∈ ["a/b", "cd", "a/b"], hash ≠ "") ∧ eachSecond.policy.isJittered = false ∧
    (∀ hash ∈ ["a/b", "cd", "a/b"], ∀ cause, (lone hash).result ≠ .error (.overflow cause)) ∧
    (Log.askedFor eachSecond.client.config.baseUrl "a/b"
      (interleaved.log.map Prod.snd)).length = 2 ∧
    ∃ runs results, interleaved.runs? = some runs ∧
      PollRun.gather (List.zipWith PollRun.mk ["a/b", "cd"] runs) = .ok results ∧
      results.map (fun entry => (entry.1, entry.2.outcome)) =
        [("a/b", .succeeded), ("cd", .errored)] := by
  intro lone
  have filled : ∀ hash ∈ ["a/b", "cd", "a/b"], hash ≠ "" := by decide
  have still : eachSecond.policy.isJittered = false := by decide +kernel
  have settled : ∀ hash ∈ ["a/b", "cd", "a/b"], (eachSecond.lone busyThenDone {}
      (fun _ => 0.0) hash).result.toOption.isSome = true := by decide +kernel
  have expressible : ∀ hash ∈ ["a/b", "cd", "a/b"], ∀ cause,
      (lone hash).result ≠ .error (.overflow cause) := by
    intro hash given cause overflowed
    have some := settled hash given
    rw [show (eachSecond.lone busyThenDone {} (fun _ => 0.0) hash).result =
      .error (.overflow cause) from overflowed] at some
    cases some
  have outcomes : interleaved.runs?.bind (fun runs =>
      (PollRun.gather (List.zipWith PollRun.mk ["a/b", "cd"] runs)).toOption.map
        (·.map fun entry => (entry.1, entry.2.outcome))) =
      some [("a/b", .succeeded), ("cd", .errored)] := by decide +kernel
  obtain ⟨runs, done, outcomes⟩ := Option.bind_eq_some_iff.mp outcomes
  obtain ⟨-, -, settles⟩ := concurrent_law eachSecond busyThenDone {} (fun _ => 0.0) filled still
    expressible (List.replicate 3 0 ++ List.replicate 5 1 ++ List.replicate 7 0)
  obtain ⟨asked, -, results, gathered, -, -⟩ := settles runs done
  have gathered : PollRun.gather (List.zipWith PollRun.mk ["a/b", "cd"] runs) = .ok results :=
    gathered
  rw [gathered] at outcomes
  refine ⟨filled, still, expressible, ?_, runs, results, done, gathered, ?_⟩
  · have requests : (eachSecond.lone busyThenDone {} (fun _ => 0.0) "a/b").sent.length = 2 := by
      decide +kernel
    exact (congrArg List.length (asked "a/b")).trans requests
  · exact Option.some_inj.mp outcomes

end Repeated

end Poll
end GatewayClient
