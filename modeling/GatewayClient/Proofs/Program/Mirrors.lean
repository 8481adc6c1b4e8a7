import GatewayClient.Program.Script
import GatewayClient.Proofs.Program.Ensures
import Mathlib.Data.List.Forall2

/-!
# Answers that make no difference

Two worlds mirror each other if they answer alike from states that stand for each other, by a
relation that says which answers to requests are alike. A program respects such a relation if it
goes on the same from answers that are alike.

**What respects the relation runs the same in both worlds** (`Program.Respects.run_alike`): it ends
with the same result and makes the same steps, up to the answers to its requests. One rule for each
of the actions that operations are made of; an operation then respects what its parts respect.
-/

set_option autoImplicit false

namespace GatewayClient

variable {σ σ' τ α β : Type} {Alike : Outcome → Outcome → Prop}

/-! ## Worlds that mirror each other -/

/-- Two worlds that answer alike from states that stand for each other, and go on to such states. -/
structure World.Mirrors (Alike : Outcome → Outcome → Prop) (Same : σ → σ' → Prop) (w : World σ τ)
    (v : World σ' τ) : Prop where
  send : ∀ request {s s'}, Same s s' →
    Alike (w.send request s).1 (v.send request s').1 ∧
      Same (w.send request s).2 (v.send request s').2
  sendWatched : ∀ request {s s'}, Same s s' →
    Option.Rel Alike (w.sendWatched request s).1 (v.sendWatched request s').1 ∧
      Same (w.sendWatched request s).2 (v.sendWatched request s').2
  sleep : ∀ delay {s s'}, Same s s' → Same (w.sleep delay s) (v.sleep delay s')
  clock : ∀ {s s'}, Same s s' →
    (w.clock s).1 = (v.clock s').1 ∧ Same (w.clock s).2 (v.clock s').2
  cancelled : ∀ {s s'}, Same s s' →
    (w.cancelled s).1 = (v.cancelled s').1 ∧ Same (w.cancelled s).2 (v.cancelled s').2
  draw : ∀ source {s s'}, Same s s' →
    (w.draw source s).1 = (v.draw source s').1 ∧ Same (w.draw source s).2 (v.draw source s').2

/-- Two steps that are the same up to what a request was answered with. -/
inductive Event.Mirrors (Alike : Outcome → Outcome → Prop) : Event τ → Event τ → Prop
  | sent {request : Request τ} {answer other : Option Outcome}
      (alike : Option.Rel Alike answer other) :
      Mirrors Alike (.sent request answer) (.sent request other)
  | other (e : Event τ) (silent : e.sent? = none) : Mirrors Alike e e

/-- Two runs with one result, whose steps are the same up to what requests were answered with. -/
structure Run.Mirrors (Alike : Outcome → Outcome → Prop) (Same : σ → σ' → Prop) (r : Run σ τ α)
    (r' : Run σ' τ α) : Prop where
  result_eq : r.result = r'.result
  state : Same r.state r'.state
  events : List.Forall₂ (Event.Mirrors Alike) r.events r'.events

/-! ## Programs -/

namespace Program

/-- The program goes on the same from answers that are alike. -/
inductive Respects (Alike : Outcome → Outcome → Prop) : Program τ α → Prop
  | done (result : α) : Respects Alike (.done result)
  | send {request : Request τ} {next : Outcome → Program τ α}
      (same : ∀ a b, Alike a b → next a = next b) (rest : ∀ a, Respects Alike (next a)) :
      Respects Alike (.send request next)
  | sendWatched {request : Request τ} {next : Option Outcome → Program τ α}
      (same : ∀ a b, Option.Rel Alike a b → next a = next b)
      (rest : ∀ a, Respects Alike (next a)) : Respects Alike (.sendWatched request next)
  | sleep {delay : τ} {next : Program τ α} (rest : Respects Alike next) :
      Respects Alike (.sleep delay next)
  | clock {next : τ → Program τ α} (rest : ∀ now, Respects Alike (next now)) :
      Respects Alike (.clock next)
  | cancelled {next : Bool → Program τ α} (rest : ∀ isSet, Respects Alike (next isSet)) :
      Respects Alike (.cancelled next)
  | draw {source : Nat} {next : τ → Program τ α} (rest : ∀ chance, Respects Alike (next chance)) :
      Respects Alike (.draw source next)
  | warn {warning : Warning τ} {next : Program τ α} (rest : Respects Alike next) :
      Respects Alike (.warn warning next)

namespace Respects

variable {p : Program τ α}

/-- A chain of programs respects the relation if its parts do. -/
theorem andThen {f : α → Program τ β} (h : p.Respects Alike) (hf : ∀ a, (f a).Respects Alike) :
    (p.andThen f).Respects Alike := by
  induction h with
  | done a => exact hf a
  | send same _ ih => exact .send (fun a b alike => by rw [same a b alike]) ih
  | sendWatched same _ ih => exact .sendWatched (fun a b alike => by rw [same a b alike]) ih
  | sleep _ ih => exact .sleep ih
  | clock _ ih => exact .clock ih
  | cancelled _ ih => exact .cancelled ih
  | draw _ ih => exact .draw ih
  | warn _ ih => exact .warn ih

/-- What respects the relation runs the same in worlds that mirror each other by it. -/
theorem run_alike {w : World σ τ} {v : World σ' τ} {Same : σ → σ' → Prop}
    (mirrors : w.Mirrors Alike Same v) (h : p.Respects Alike) {s : σ} {s' : σ'}
    (start : Same s s') : (p.run w s).Mirrors Alike Same (p.run v s') := by
  have step : ∀ {r : Run σ τ α} {r' : Run σ' τ α} {e e' : Event τ}, r.Mirrors Alike Same r' →
      e.Mirrors Alike e' → (r.after e).Mirrors Alike Same (r'.after e') := fun rest here =>
    ⟨rest.result_eq, rest.state, .cons here rest.events⟩
  -- Only the answers to requests differ, and the program goes on the same from both.
  induction h generalizing s s' with
  | done a => exact ⟨rfl, start, .nil⟩
  | send same _ ih =>
    obtain ⟨alike, on⟩ := mirrors.send _ start
    refine step ?_ (.sent (.some alike))
    rw [← same _ _ alike]
    exact ih _ on
  | sendWatched same _ ih =>
    obtain ⟨alike, on⟩ := mirrors.sendWatched _ start
    refine step ?_ (.sent alike)
    rw [← same _ _ alike]
    exact ih _ on
  | sleep _ ih => exact step (ih (mirrors.sleep _ start)) (.other _ rfl)
  | @clock next _ ih =>
    obtain ⟨same, on⟩ := mirrors.clock start
    refine step ?_ (same ▸ .other (.clock (w.clock s).1) rfl)
    rw [← same]
    exact ih _ on
  | cancelled _ ih =>
    obtain ⟨same, on⟩ := mirrors.cancelled start
    refine step ?_ (same ▸ .other (.cancelled (w.cancelled s).1) rfl)
    rw [← same]
    exact ih _ on
  | @draw source _ _ ih =>
    obtain ⟨same, on⟩ := mirrors.draw source start
    refine step ?_ (same ▸ .other (.drew source (w.draw source s).1) rfl)
    rw [← same]
    exact ih _ on
  | warn _ ih => exact step (ih start) (.other _ rfl)

end Respects

/-- Some answers bring a program to its end. -/
theorem exists_traces [Nonempty τ] (p : Program τ α) : ∃ log a, p.Traces log a := by
  have some : τ := Classical.ofNonempty
  induction p with
  | done a => exact ⟨[], a, .done a⟩
  | send _ _ ih =>
    obtain ⟨log, a, rest⟩ := ih (.failure ⟨.timeout, ""⟩)
    exact ⟨_, a, .send _ rest⟩
  | sendWatched _ _ ih =>
    obtain ⟨log, a, rest⟩ := ih none
    exact ⟨_, a, .sendWatched _ rest⟩
  | sleep _ _ ih =>
    obtain ⟨log, a, rest⟩ := ih
    exact ⟨_, a, .sleep rest⟩
  | clock _ ih =>
    obtain ⟨log, a, rest⟩ := ih some
    exact ⟨_, a, .clock some rest⟩
  | cancelled _ ih =>
    obtain ⟨log, a, rest⟩ := ih true
    exact ⟨_, a, .cancelled true rest⟩
  | draw _ _ ih =>
    obtain ⟨log, a, rest⟩ := ih some
    exact ⟨_, a, .draw some rest⟩
  | warn _ _ ih =>
    obtain ⟨log, a, rest⟩ := ih
    exact ⟨_, a, .warn rest⟩

/-- A program that asks for nothing respects every relation. -/
theorem respects_of_silent [Nonempty τ] {p : Program τ α}
    (silent : ∀ ⦃log a⦄, p.Traces log a → log.sent = []) : p.Respects Alike := by
  induction p with
  | done a => exact .done a
  | send request next ih =>
    obtain ⟨log, a, rest⟩ := (next (.failure ⟨.timeout, ""⟩)).exists_traces
    cases silent (.send _ rest)
  | sendWatched request next ih =>
    obtain ⟨log, a, rest⟩ := (next none).exists_traces
    cases silent (.sendWatched _ rest)
  | sleep _ _ ih => exact .sleep (ih fun _ _ rest => (silent (.sleep rest) :))
  | clock _ ih => exact .clock fun now => ih now fun _ _ rest => (silent (.clock now rest) :)
  | cancelled _ ih =>
    exact .cancelled fun isSet => ih isSet fun _ _ rest => (silent (.cancelled isSet rest) :)
  | draw _ _ ih =>
    exact .draw fun chance => ih chance fun _ _ rest => (silent (.draw chance rest) :)
  | warn _ _ ih => exact .warn (ih fun _ _ rest => (silent (.warn rest) :))

end Program

/-! ## Actions -/

namespace Action

/-- The action goes on the same from answers that are alike. -/
def Respects (Alike : Outcome → Outcome → Prop) (x : Action τ α) : Prop :=
  Program.Respects Alike x.run

namespace Respects

variable {x : Action τ α}

/-- What respects the relation runs the same in worlds that mirror each other by it. -/
theorem runIn_alike {w : World σ τ} {v : World σ' τ} {Same : σ → σ' → Prop}
    (mirrors : w.Mirrors Alike Same v) (h : x.Respects Alike) {s : σ} {s' : σ'}
    (start : Same s s') : (x.runIn w s).Mirrors Alike Same (x.runIn v s') :=
  Program.Respects.run_alike mirrors h start

theorem bind {f : α → Action τ β} (hx : x.Respects Alike) (hf : ∀ a, (f a).Respects Alike) :
    Respects Alike (x >>= f) := by
  refine Program.Respects.andThen hx fun r => ?_
  cases r with
  | ok a => exact hf a
  | error failure => exact .done _

theorem pure (a : α) : Respects Alike (Pure.pure a : Action τ α) := .done _

theorem fail (failure : Failure τ) : Respects Alike (Action.fail failure : Action τ α) := .done _

theorem raise (e : ApiError τ) : Respects Alike (Action.raise e : Action τ α) := .done _

theorem warn (warning : Warning τ) : (Action.warn warning).Respects Alike :=
  Program.Respects.warn (.done _)

theorem clock : (Action.clock : Action τ τ).Respects Alike :=
  Program.Respects.clock fun _ => .done _

theorem isCancelled (watching : Bool) :
    (Action.isCancelled watching : Action τ Bool).Respects Alike := by
  cases watching with
  | false => exact .done _
  | true => exact Program.Respects.cancelled fun _ => .done _

theorem pause (delay : τ) (watching : Bool) : (Action.pause delay watching).Respects Alike := by
  refine (isCancelled watching).bind fun isSet => ?_
  cases isSet with
  | true => exact pure false
  | false =>
    have sleeps : (Action.sleep delay).Respects Alike := Program.Respects.sleep (.done _)
    exact sleeps.bind fun _ => (isCancelled watching).bind fun _ => pure _

theorem lift {ε : Type} (failure : ε → Failure τ) (r : Except ε α) :
    (Action.lift failure r).Respects Alike := by
  cases r with
  | ok a => exact pure a
  | error e => exact fail (failure e)

/-- What follows a request goes on the same from answers that are alike. -/
theorem send {request : Request τ} {watching : Bool} {f : Option Outcome → Action τ β}
    (same : ∀ a b, Alike a b → f (some a) = f (some b))
    (rest : ∀ answer, (f answer).Respects Alike) :
    Respects Alike (Action.send request watching >>= f) := by
  cases watching with
  | false => exact Program.Respects.send same fun answer => rest (some answer)
  | true =>
    refine Program.Respects.sendWatched (fun answer other alike => ?_) rest
    cases alike with
    | none => rfl
    | some alike => exact same _ _ alike

/-- An action that asks for nothing respects every relation. -/
theorem of_silent [Nonempty τ] (silent : ∀ ⦃log r⦄, x.Traces log r → log.sent = []) :
    x.Respects Alike :=
  Program.respects_of_silent silent

end Respects
end Action

/-! ## Scripts -/

namespace Script

/-- Two replies that are the same up to their answers, which are alike. -/
structure MirrorsReply (Alike : Outcome → Outcome → Prop) (reply other : Reply τ) : Prop where
  answer : Option.Rel Alike reply.answer other.answer
  advance : reply.advance = other.advance
  cancels : reply.cancels = other.cancels

/-- Two scripts for one hash whose replies are the same up to their answers. -/
structure MirrorsEntry (Alike : Outcome → Outcome → Prop)
    (entry other : String × List (Reply τ)) : Prop where
  hash : entry.1 = other.1
  replies : List.Forall₂ (MirrorsReply Alike) entry.2 other.2

/-- Two scripts that are the same up to the answers of their replies. -/
structure Mirrors (Alike : Outcome → Outcome → Prop) (s s' : Script τ) : Prop where
  replies : List.Forall₂ (MirrorsReply Alike) s.replies s'.replies
  byHash : List.Forall₂ (MirrorsEntry Alike) s.byHash s'.byHash
  now : s.now = s'.now
  isCancelled : s.isCancelled = s'.isCancelled
  naps : s.naps = s'.naps
  cancelOnNap : s.cancelOnNap = s'.cancelOnNap
  chances : s.chances = s'.chances

variable [TimeScale τ] (refl : ∀ outcome, Alike outcome outcome)
include refl

/-- Replies that are alike are taken in step. -/
theorem mirrors_next {replies others : List (Reply τ)}
    (alike : List.Forall₂ (MirrorsReply Alike) replies others) :
    MirrorsReply Alike (next replies).1 (next others).1 ∧
      List.Forall₂ (MirrorsReply Alike) (next replies).2 (next others).2 := by
  cases alike with
  | nil => exact ⟨⟨.some (refl _), rfl, rfl⟩, .nil⟩
  | cons first rest =>
    cases rest with
    | nil => exact ⟨first, .cons first .nil⟩
    | cons second rest => exact ⟨first, .cons second rest⟩

/-- Replies for a hash that are alike are taken in step. -/
theorem mirrors_nextByHash (url : String) {entries others : List (String × List (Reply τ))}
    (alike : List.Forall₂ (MirrorsEntry Alike) entries others) :
    Option.Rel (fun found other => MirrorsReply Alike found.1 other.1 ∧
      List.Forall₂ (MirrorsEntry Alike) found.2 other.2)
      (nextByHash url entries) (nextByHash url others) := by
  induction alike with
  | nil => exact .none
  | @cons entry other entries others first rest ih =>
    obtain ⟨hash, replies⟩ := entry
    obtain ⟨same, scripts⟩ := other
    obtain ⟨here, replies⟩ := first
    change hash = same at here
    subst here
    unfold nextByHash
    split
    · obtain ⟨now, later⟩ := mirrors_next refl replies
      exact .some ⟨now, .cons ⟨rfl, later⟩ rest⟩
    · generalize nextByHash url entries = found at ih
      generalize nextByHash url others = other at ih
      cases ih with
      | none => exact .none
      | some found => exact .some ⟨found.1, .cons ⟨rfl, replies⟩ found.2⟩

/-- Scripts that are alike reply alike, and stay alike. -/
theorem mirrors_reply (request : Request τ) {s s' : Script τ} (alike : s.Mirrors Alike s') :
    MirrorsReply Alike (s.reply request).1 (s'.reply request).1 ∧
      (s.reply request).2.Mirrors Alike (s'.reply request).2 := by
  obtain ⟨replies, byHash, now, isCancelled, naps, cancelOnNap, chances⟩ := alike
  have settle : ∀ {reply other : Reply τ}, MirrorsReply Alike reply other →
      s.now + reply.advance = s'.now + other.advance ∧
      (s.isCancelled || reply.cancels || reply.answer.isNone) =
        (s'.isCancelled || other.cancels || other.answer.isNone) := by
    rintro reply other ⟨answer, advance, cancels⟩
    have answered : ∀ {a b : Option Outcome}, Option.Rel Alike a b → a.isNone = b.isNone := by
      intro a b alike
      cases alike <;> rfl
    rw [now, isCancelled, advance, cancels, answered answer]
    exact ⟨rfl, rfl⟩
  unfold Script.reply
  have found := mirrors_nextByHash refl request.url byHash
  generalize nextByHash request.url s.byHash = one at found
  generalize nextByHash request.url s'.byHash = other at found
  cases found with
  | none =>
    obtain ⟨here, later⟩ := mirrors_next refl replies
    obtain ⟨time, event⟩ := settle here
    exact ⟨here, ⟨later, byHash, time, event, naps, cancelOnNap, chances⟩⟩
  | some found =>
    obtain ⟨here, later⟩ := found
    obtain ⟨time, event⟩ := settle here
    exact ⟨here, ⟨replies, later, time, event, naps, cancelOnNap, chances⟩⟩

/-- Worlds that follow such scripts mirror each other. -/
theorem mirrors_world :
    (world : World (Script τ) τ).Mirrors Alike (Mirrors Alike) world where
  send request s s' alike := by
    obtain ⟨reply, on⟩ := mirrors_reply refl request alike
    have answered : ∀ {a b : Option Outcome} (otherwise : Outcome), Option.Rel Alike a b →
        Alike (a.getD otherwise) (b.getD otherwise) := by
      intro a b otherwise alike
      cases alike with
      | none => exact refl otherwise
      | some alike => exact alike
    exact ⟨answered _ reply.answer, on⟩
  sendWatched request s s' alike := by
    obtain ⟨reply, on⟩ := mirrors_reply refl request alike
    exact ⟨reply.answer, on⟩
  sleep delay s s' alike := by
    obtain ⟨replies, byHash, now, isCancelled, naps, cancelOnNap, chances⟩ := alike
    exact ⟨replies, byHash, by simp [world, sleep, now], by simp [world, sleep, *],
      by simp [world, sleep, naps], cancelOnNap, chances⟩
  clock alike := ⟨alike.now, alike⟩
  cancelled alike := ⟨alike.isCancelled, alike⟩
  draw source s s' alike := by
    obtain ⟨replies, byHash, now, isCancelled, naps, cancelOnNap, chances⟩ := alike
    refine ⟨?_, ⟨replies, byHash, now, isCancelled, naps, cancelOnNap, ?_⟩⟩
    · show (takeChance source s.chances).1 = (takeChance source s'.chances).1
      rw [chances]
    · show (takeChance source s.chances).2 = (takeChance source s'.chances).2
      rw [chances]

end Script

/-- A schedule sees no answers. -/
theorem RetryPolicy.respects_schedule [TimeScale τ] (p : RetryPolicy τ) (index : Nat) (elapsed : τ)
    (rateLimited : Bool) : (p.schedule index elapsed rateLimited).Respects Alike := by
  unfold schedule
  split
  · exact .pure none
  · refine (Action.Respects.lift _ _).bind fun delay => ?_
    split
    · have draws : (Action.draw p.source : Action τ τ).Respects Alike :=
        Program.Respects.draw fun _ => .done _
      exact draws.bind fun _ => .pure _
    · exact .pure _

end GatewayClient
