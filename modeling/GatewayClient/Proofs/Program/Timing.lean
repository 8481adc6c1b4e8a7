import GatewayClient.Proofs.Program.Heeding
import GatewayClient.Time.Exact

/-!
# Time in a run

A world keeps time if time passes while a request or a sleep is under way, and at no other moment.
It never goes back, and a sleep takes as long as it was asked to.

**What this says of a run** (`World.KeepsTime.timed_run`): the log, together with the times at which
its requests begin, is timed. `Log.Timed` follows the log step by step, so what holds of the time in
a part of a run is said of the log alone.

Scripted worlds keep time (`Script.keepsTime`), unless a reply takes the clock back.
-/

set_option autoImplicit false

namespace GatewayClient

variable {σ τ α β : Type}

/-- The time in a state: what the clock would say. -/
def World.time (w : World σ τ) (s : σ) : τ := (w.clock s).1

/-- In the states that are sound, time passes while a request or a sleep is under way, and at no
other moment. It never goes back, and a sleep takes as long as it was asked to. -/
structure World.KeepsTime (w : World σ Rat) (sound : σ → Prop) : Prop where
  clock : ∀ s, sound s → sound (w.clock s).2 ∧ w.time (w.clock s).2 = w.time s
  cancelled : ∀ s, sound s → sound (w.cancelled s).2 ∧ w.time (w.cancelled s).2 = w.time s
  draw : ∀ source s, sound s →
    sound (w.draw source s).2 ∧ w.time (w.draw source s).2 = w.time s
  send : ∀ request s, sound s →
    sound (w.send request s).2 ∧ w.time s ≤ w.time (w.send request s).2
  sendWatched : ∀ request s, sound s →
    sound (w.sendWatched request s).2 ∧ w.time s ≤ w.time (w.sendWatched request s).2
  sleep : ∀ delay s, sound s →
    sound (w.sleep delay s) ∧ w.time (w.sleep delay s) = w.time s + delay

/-! ## Logs with their times -/

namespace Log

/-- A log keeps to the time: from the first time to the last one, with the times at which its
requests begin. -/
inductive Timed : Rat → Log Rat → List Rat → Rat → Prop
  | nil (t : Rat) : Timed t [] [] t
  | sent {t meanwhile last : Rat} {request : Request Rat} {answer : Option Outcome} {log : Log Rat}
      {starts : List Rat} (passes : t ≤ meanwhile) (rest : Timed meanwhile log starts last) :
      Timed t (.sent request answer :: log) (t :: starts) last
  | slept {t last delay : Rat} {log : Log Rat} {starts : List Rat}
      (rest : Timed (t + delay) log starts last) : Timed t (.slept delay :: log) starts last
  | clock {t last : Rat} {log : Log Rat} {starts : List Rat} (rest : Timed t log starts last) :
      Timed t (.clock t :: log) starts last
  | cancelled {t last : Rat} {isSet : Bool} {log : Log Rat} {starts : List Rat}
      (rest : Timed t log starts last) : Timed t (.cancelled isSet :: log) starts last
  | drew {t last chance : Rat} {source : Nat} {log : Log Rat} {starts : List Rat}
      (rest : Timed t log starts last) : Timed t (.drew source chance :: log) starts last
  | warned {t last : Rat} {warning : Warning Rat} {log : Log Rat} {starts : List Rat}
      (rest : Timed t log starts last) : Timed t (.warned warning :: log) starts last

namespace Timed

variable {t last : Rat} {log more : Log Rat} {starts : List Rat}

/-- What follows a part of a log begins when that part ends. -/
theorem split (h : Timed t (log ++ more) starts last) :
    ∃ middle first later, starts = first ++ later ∧ Timed t log first middle ∧
      Timed middle more later last := by
  induction log generalizing t starts with
  | nil => exact ⟨t, [], starts, rfl, .nil t, h⟩
  | cons e log ih =>
    cases h with
    | sent passes rest =>
      obtain ⟨middle, first, later, rfl, before, after⟩ := ih rest
      exact ⟨middle, t :: first, later, rfl, .sent passes before, after⟩
    | slept rest =>
      obtain ⟨middle, first, later, rfl, before, after⟩ := ih rest
      exact ⟨middle, first, later, rfl, .slept before, after⟩
    | clock rest =>
      obtain ⟨middle, first, later, rfl, before, after⟩ := ih rest
      exact ⟨middle, first, later, rfl, .clock before, after⟩
    | cancelled rest =>
      obtain ⟨middle, first, later, rfl, before, after⟩ := ih rest
      exact ⟨middle, first, later, rfl, .cancelled before, after⟩
    | drew rest =>
      obtain ⟨middle, first, later, rfl, before, after⟩ := ih rest
      exact ⟨middle, first, later, rfl, .drew before, after⟩
    | warned rest =>
      obtain ⟨middle, first, later, rfl, before, after⟩ := ih rest
      exact ⟨middle, first, later, rfl, .warned before, after⟩

/-- No time passes while nothing is done that can be noticed. -/
theorem of_quiet (h : Timed t log starts last) (quiet : log.acts = []) :
    starts = [] ∧ last = t := by
  induction h with
  | nil _ => exact ⟨rfl, rfl⟩
  | sent _ _ _ | slept _ _ => cases quiet
  | clock _ ih | cancelled _ ih | drew _ ih | warned _ ih => exact ih quiet

/-- The only request begins at once. -/
theorem of_single (h : Timed t log starts last) {request : Request Rat} {answer : Option Outcome}
    (single : log.acts = [.sent request answer]) : starts = [t] ∧ t ≤ last := by
  induction h with
  | nil _ => cases single
  | slept _ _ => cases single
  | sent passes rest _ =>
    obtain ⟨rfl, rfl⟩ := rest.of_quiet (List.cons_eq_cons.mp single).2
    exact ⟨rfl, passes⟩
  | clock _ ih | cancelled _ ih | drew _ ih | warned _ ih => exact ih single

end Timed
end Log

/-! ## When requests begin -/

/-- The times at which the requests of a run begin. -/
def Program.starts (w : World σ τ) (p : Program τ α) (s : σ) : List τ :=
  (p.steps w s).filterMap fun step => step.2.sent?.map fun _ => w.time step.1

/-- The times at which the requests of an action begin. -/
def Action.starts (x : Action τ α) (w : World σ τ) (s : σ) : List τ := Program.starts w x.run s

namespace World.KeepsTime

variable {w : World σ Rat} {sound : σ → Prop}

/-- Every run of a program is timed. -/
theorem timed_run (keeps : w.KeepsTime sound) (p : Program Rat α) {s : σ} (here : sound s) :
    Log.Timed (w.time s) (p.run w s).events (p.starts w s) (w.time (p.run w s).state) := by
  induction p generalizing s with
  | done a => exact .nil _
  | send request next ih =>
    obtain ⟨there, passes⟩ := keeps.send request s here
    exact .sent passes (ih _ there)
  | sendWatched request next ih =>
    obtain ⟨there, passes⟩ := keeps.sendWatched request s here
    exact .sent passes (ih _ there)
  | sleep delay next ih =>
    obtain ⟨there, passes⟩ := keeps.sleep delay s here
    exact .slept (passes ▸ ih there)
  | clock next ih =>
    obtain ⟨there, same⟩ := keeps.clock s here
    exact .clock (same ▸ ih _ there)
  | cancelled next ih =>
    obtain ⟨there, same⟩ := keeps.cancelled s here
    exact .cancelled (same ▸ ih _ there)
  | draw source next ih =>
    obtain ⟨there, same⟩ := keeps.draw source s here
    exact .drew (same ▸ ih _ there)
  | warn warning next ih => exact .warned (ih here)

/-- Every run of an action is timed. -/
theorem timed_runIn (keeps : w.KeepsTime sound) (x : Action Rat α) {s : σ} (here : sound s) :
    Log.Timed (w.time s) (x.runIn w s).events (x.starts w s) (w.time (x.runIn w s).state) :=
  keeps.timed_run x.run here

/-- A step of a run begins when what was done before it is over. -/
theorem timed_before (keeps : w.KeepsTime sound) (p : Program Rat α) {s : σ} (here : sound s)
    {earlier later : List (σ × Event Rat)} {step : σ × Event Rat}
    (split : p.steps w s = earlier ++ step :: later) :
    ∃ starts, Log.Timed (w.time s) (earlier.map (·.2)) starts (w.time step.1) := by
  induction p generalizing s earlier with
  | done _ => simp [Program.steps] at split
  | send request next ih =>
    obtain ⟨there, passes⟩ := keeps.send request s here
    cases earlier with
    | nil => cases split; exact ⟨[], .nil _⟩
    | cons _ _ =>
      injection split with first rest
      obtain ⟨starts, timed⟩ := ih _ there rest
      exact first ▸ ⟨_, .sent passes timed⟩
  | sendWatched request next ih =>
    obtain ⟨there, passes⟩ := keeps.sendWatched request s here
    cases earlier with
    | nil => cases split; exact ⟨[], .nil _⟩
    | cons _ _ =>
      injection split with first rest
      obtain ⟨starts, timed⟩ := ih _ there rest
      exact first ▸ ⟨_, .sent passes timed⟩
  | sleep delay next ih =>
    obtain ⟨there, passes⟩ := keeps.sleep delay s here
    cases earlier with
    | nil => cases split; exact ⟨[], .nil _⟩
    | cons _ _ =>
      injection split with first rest
      obtain ⟨starts, timed⟩ := ih there rest
      exact first ▸ ⟨starts, .slept (passes ▸ timed)⟩
  | clock next ih =>
    obtain ⟨there, same⟩ := keeps.clock s here
    cases earlier with
    | nil => cases split; exact ⟨[], .nil _⟩
    | cons _ _ =>
      injection split with first rest
      obtain ⟨starts, timed⟩ := ih _ there rest
      exact first ▸ ⟨starts, .clock (same ▸ timed)⟩
  | cancelled next ih =>
    obtain ⟨there, same⟩ := keeps.cancelled s here
    cases earlier with
    | nil => cases split; exact ⟨[], .nil _⟩
    | cons _ _ =>
      injection split with first rest
      obtain ⟨starts, timed⟩ := ih _ there rest
      exact first ▸ ⟨starts, .cancelled (same ▸ timed)⟩
  | draw source next ih =>
    obtain ⟨there, same⟩ := keeps.draw source s here
    cases earlier with
    | nil => cases split; exact ⟨[], .nil _⟩
    | cons _ _ =>
      injection split with first rest
      obtain ⟨starts, timed⟩ := ih _ there rest
      exact first ▸ ⟨starts, .drew (same ▸ timed)⟩
  | warn warning next ih =>
    cases earlier with
    | nil => cases split; exact ⟨[], .nil _⟩
    | cons _ _ =>
      injection split with first rest
      obtain ⟨starts, timed⟩ := ih here rest
      exact first ▸ ⟨starts, .warned timed⟩

end World.KeepsTime

/-- The steps of a chain are those of its first part, and then those of what goes on. -/
theorem Program.steps_andThen (w : World σ τ) (p : Program τ α) (f : α → Program τ β) (s : σ) :
    (p.andThen f).steps w s =
      p.steps w s ++ (f (p.run w s).result).steps w (p.run w s).state := by
  induction p generalizing s with
  | done a => rfl
  | send _ _ ih | sendWatched _ _ ih | clock _ ih | cancelled _ ih | draw _ _ ih =>
    exact congrArg _ (ih _ _)
  | sleep _ _ ih | warn _ _ ih => exact congrArg _ (ih _)

/-- What follows an action comes after its requests. -/
theorem Action.starts_bind (w : World σ τ) (x : Action τ α) (f : α → Action τ β) (s : σ) :
    ∃ later, (x >>= f).starts w s = x.starts w s ++ later := by
  have chain : (x >>= f).run = Program.andThen x.run fun r => ExceptT.bindCont f r := rfl
  rw [starts, Program.starts, chain, Program.steps_andThen, List.filterMap_append]
  exact ⟨_, rfl⟩

/-! ## Scripted worlds -/

namespace Script

/-- None of the replies takes the clock back. -/
def Forward (s : Script Rat) : Prop :=
  (∀ reply ∈ s.replies, 0 ≤ reply.advance) ∧
    ∀ entry ∈ s.byHash, ∀ reply ∈ entry.2, 0 ≤ reply.advance

theorem forward_exhausted : 0 ≤ (exhausted : Reply Rat).advance := by decide +kernel

/-- Neither does the next reply, nor those behind it. -/
theorem forward_next {replies : List (Reply Rat)} (forward : ∀ reply ∈ replies, 0 ≤ reply.advance) :
    0 ≤ (next replies).1.advance ∧ ∀ reply ∈ (next replies).2, 0 ≤ reply.advance := by
  match replies with
  | [] => exact ⟨forward_exhausted, nofun⟩
  | [last] => exact ⟨forward last (.head _), forward⟩
  | reply :: other :: rest => exact List.forall_mem_cons.mp forward

/-- Neither does the next reply for a hash, nor those that are left. -/
theorem forward_nextByHash {url : String} {byHash rest : List (String × List (Reply Rat))}
    {reply : Reply Rat} (forward : ∀ entry ∈ byHash, ∀ reply ∈ entry.2, 0 ≤ reply.advance)
    (found : nextByHash url byHash = some (reply, rest)) :
    0 ≤ reply.advance ∧ ∀ entry ∈ rest, ∀ reply ∈ entry.2, 0 ≤ reply.advance := by
  induction byHash generalizing rest with
  | nil => cases found
  | cons entry byHash ih =>
    obtain ⟨own, others⟩ := List.forall_mem_cons.mp forward
    unfold nextByHash at found
    split at found
    next =>
      cases found
      obtain ⟨first, later⟩ := forward_next own
      exact ⟨first, List.forall_mem_cons.mpr ⟨later, others⟩⟩
    next =>
      obtain ⟨⟨_, more⟩, elsewhere, same⟩ := Option.map_eq_some_iff.mp found
      cases same
      obtain ⟨first, later⟩ := ih others elsewhere
      exact ⟨first, List.forall_mem_cons.mpr ⟨own, later⟩⟩

/-- Meeting a request takes as long as the reply says, and leaves the other replies as they are. -/
theorem forward_reply (request : Request Rat) {s : Script Rat} (forward : s.Forward) :
    (s.reply request).2.Forward ∧ s.now ≤ (s.reply request).2.now := by
  unfold reply
  cases found : nextByHash request.url s.byHash with
  | some answered =>
    obtain ⟨passes, later⟩ := forward_nextByHash forward.2 found
    exact ⟨⟨forward.1, later⟩, by dsimp only; grind⟩
  | none =>
    obtain ⟨passes, later⟩ := forward_next forward.1
    exact ⟨⟨later, forward.2⟩, by dsimp only; grind⟩

/-- A scripted world keeps time. -/
theorem keepsTime : World.KeepsTime (world (τ := Rat)) Forward where
  clock _ forward := ⟨forward, rfl⟩
  cancelled _ forward := ⟨forward, rfl⟩
  draw _ _ forward := ⟨forward, rfl⟩
  send request _ forward := forward_reply request forward
  sendWatched request _ forward := forward_reply request forward
  sleep _ _ forward := ⟨forward, rfl⟩

end Script
end GatewayClient
