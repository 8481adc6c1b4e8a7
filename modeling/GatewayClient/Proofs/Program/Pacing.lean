import GatewayClient.Proofs.Program.Timing
import Mathlib.Algebra.Field.Rat

/-!
# The pace of a log

An operation that goes in rounds makes at most one request in each, then reads the clock, and then
sleeps. `Log.Paced` says so of a log, with what is chosen to be slept by what came before.

**Every sleep was chosen** (`Log.Paced.chosen_of_slept`), by all of the log before it and by the
reading of the clock that came last, after which nothing was done that can be noticed.

**Sleeps within a budget add up to no more than it** (`Log.Paced.sum_slept_le`) on every clock that
does not go back, and where time passes only in requests and sleeps, the requests begin within it
(`Log.Paced.starts_le`).
-/

set_option autoImplicit false

namespace GatewayClient

variable {σ τ α : Type}

/-! ## Rounds -/

namespace Log

/-- The numbers that were drawn. -/
def drawn (log : Log τ) : List τ :=
  log.filterMap fun
    | .drew _ chance => some chance
    | _ => none

@[simp] theorem drawn_append (log more : Log τ) : drawn (log ++ more) = drawn log ++ drawn more :=
  List.filterMap_append

theorem mem_slept {log : Log τ} {delay : τ} : delay ∈ log.slept ↔ .slept delay ∈ log := by
  constructor
  · intro mem
    obtain ⟨e, there, same⟩ := List.mem_filterMap.mp mem
    cases e with
    | slept => cases same; exact there
    | clock _ | sent _ _ | cancelled _ | drew _ _ | warned _ => cases same
  · exact fun mem => List.mem_filterMap.mpr ⟨_, mem, rfl⟩

/-- The time from the first reading of the clock to the last one. -/
def elapsed? [TimeScale τ] (log : Log τ) : Option τ :=
  match log.readings.head?, log.readings.getLast? with
  | some first, some last => some (last - first)
  | _, _ => none

/-- The time up to a reading of the clock, where none follows. -/
theorem elapsed?_of_read [TimeScale τ] {ask quiet : Log τ} {started now : τ}
    (unread : quiet.readings = []) :
    elapsed? (.clock started :: (ask ++ .clock now :: quiet)) = some (now - started) := by
  have last : Log.readings (.clock started :: (ask ++ .clock now :: quiet)) =
      (started :: ask.readings) ++ [now] := by simp [unread]
  rw [elapsed?, last, List.getLast?_concat]
  rfl

/-- A log in rounds, by what came before it. A round makes one request, reads the clock and sleeps;
the last one makes one request at most. What is slept is `Chosen` by all that came before it and by
the reading. -/
inductive Paced (Chosen : Log τ → τ → τ → Prop) : Log τ → Log τ → Prop
  | ends {before log : Log τ}
      (last : log.acts = [] ∨ ∃ request answer, log.acts = [.sent request answer]) :
      Paced Chosen before log
  | sleeps {before ask quiet log : Log τ} {request : Request τ} {answer : Option Outcome}
      {now delay : τ} (asked : ask.acts = [.sent request answer]) (still : quiet.acts = [])
      (unread : quiet.readings = [])
      (chosen : Chosen (before ++ (ask ++ .clock now :: quiet)) now delay)
      (rest : Paced Chosen (before ++ (ask ++ .clock now :: quiet) ++ [.slept delay]) log) :
      Paced Chosen before (ask ++ .clock now :: (quiet ++ .slept delay :: log))

/-- The parts of a log around a sleep are told apart by the sleeps in them. -/
theorem append_slept_eq {awake front rest later : Log τ} {delay wait : τ}
    (unslept : slept awake = [])
    (same : awake ++ .slept delay :: rest = front ++ .slept wait :: later) :
    front = awake ∧ delay = wait ∧ rest = later ∨
      ∃ more, front = awake ++ .slept delay :: more ∧ rest = more ++ .slept wait :: later := by
  induction awake generalizing front with
  | nil =>
    cases front with
    | nil =>
      cases same
      exact .inl ⟨rfl, rfl, rfl⟩
    | cons e front =>
      cases same
      exact .inr ⟨front, rfl, rfl⟩
  | cons e awake ih =>
    cases front with
    | nil =>
      cases same
      cases unslept
    | cons e' front =>
      injection same with first others
      subst first
      have unslept : slept awake = [] := (List.append_eq_nil_iff.mp (slept_cons e _ ▸ unslept)).2
      rcases ih unslept others with ⟨rfl, here⟩ | ⟨more, rfl, there⟩
      · exact .inl ⟨rfl, here⟩
      · exact .inr ⟨more, rfl, there⟩

/-! ## What rounds choose -/

namespace Paced

variable {Chosen Fits : Log τ → τ → τ → Prop} {before log : Log τ}

/-- What weaker choices allow is allowed. -/
theorem mono (h : Paced Chosen before log)
    (weaker : ∀ before now delay, Chosen before now delay → Fits before now delay) :
    Paced Fits before log := by
  induction h with
  | ends last => exact .ends last
  | sleeps asked still unread chosen _ ih =>
    exact .sleeps asked still unread (weaker _ _ _ chosen) ih

/-- What cannot be noticed goes with the round that follows it. -/
theorem quiet_append {quiet : Log τ} (still : quiet.acts = [])
    (h : Paced Chosen (before ++ quiet) log) : Paced Chosen before (quiet ++ log) := by
  cases h with
  | ends last => exact .ends (by rwa [acts_append, still, List.nil_append])
  | @sleeps _ ask _ _ _ _ _ _ asked calm unread chosen rest =>
    rw [List.append_assoc, ← List.append_assoc quiet] at chosen
    rw [List.append_assoc before, ← List.append_assoc quiet] at rest
    rw [← List.append_assoc quiet]
    exact .sleeps (by rw [acts_append, still, asked, List.nil_append]) calm unread chosen rest

/-- A round without a sleep is the last one. -/
theorem asked {ask quiet : Log τ} {request : Request τ} {answer : Option Outcome}
    (asked : ask.acts = [.sent request answer]) (still : quiet.acts = []) :
    Paced Chosen before (ask ++ quiet) := by
  refine .ends (.inr ⟨request, answer, ?_⟩)
  rw [acts_append, asked, still, List.append_nil]

/-- A round with a pause, which another round follows if the pause was a full one. -/
theorem paused {ask quiet pause rest : Log τ} {request : Request τ} {answer : Option Outcome}
    {now delay : τ} {watching full : Bool} (asked : ask.acts = [.sent request answer])
    (still : quiet.acts = []) (unread : quiet.readings = [])
    (pauses : Action.Paused delay watching pause full) (cut : full = false → rest.acts = [])
    (chosen : ∀ looks : Log τ, looks.acts = [] → looks.sent = [] → looks.drawn = [] →
      Chosen (before ++ (ask ++ .clock now :: (quiet ++ looks))) now delay)
    (goes : full = true →
      Paced Chosen (before ++ (ask ++ .clock now :: (quiet ++ pause))) rest) :
    Paced Chosen before (ask ++ .clock now :: (quiet ++ pause ++ rest)) := by
  cases pauses with
  | unwatched =>
    have here := chosen [] rfl rfl rfl
    have goes := goes rfl
    rw [List.append_nil] at here
    rw [List.append_assoc]
    refine .sleeps asked still unread here ?_
    simpa using goes
  | stopped => exact .asked asked (by simp [still, cut rfl])
  | watched isSet =>
    have here := chosen [.cancelled false] rfl rfl rfl
    have looked : Paced Chosen (before ++ (ask ++ .clock now :: (quiet ++ [.cancelled false])) ++
        [.slept delay]) ([.cancelled isSet] ++ rest) := by
      cases isSet with
      | true => exact .ends (.inl (by simp [cut rfl]))
      | false =>
        refine quiet_append rfl ?_
        simpa using goes rfl
    have calm : acts (quiet ++ [.cancelled false]) = [] := by simp [still]
    have round := Paced.sleeps asked calm (by simp [unread]) here looked
    simpa using round

/-- Every sleep was chosen, and nothing that can be noticed comes between it and the last reading of
the clock. -/
theorem chosen_of_slept (h : Paced Chosen before log) {front later : Log τ} {delay : τ}
    (split : log = front ++ .slept delay :: later) :
    ∃ (ask quiet : Log τ) (now : τ), front = ask ++ .clock now :: quiet ∧ quiet.acts = [] ∧
      quiet.readings = [] ∧ Chosen (before ++ front) now delay := by
  induction h generalizing front with
  | @ends _ log last =>
    have slept : log.acts.slept = log.slept := slept_acts log
    rw [split] at last slept
    rcases last with none | ⟨request, answer, one⟩
    · simp [none] at slept
    · simp [one] at slept
  | @sleeps before ask quiet log request answer now wait asked still unread chosen _ ih =>
    have unslept : Log.slept (ask ++ .clock now :: quiet) = [] := by
      rw [← slept_acts]
      simp [asked, still]
    have same : (ask ++ .clock now :: quiet) ++ .slept wait :: log =
        front ++ .slept delay :: later := by
      rw [← split]
      simp
    rcases append_slept_eq unslept same with ⟨rfl, rfl, -⟩ | ⟨more, rfl, there⟩
    · exact ⟨ask, quiet, now, rfl, still, unread, chosen⟩
    · obtain ⟨ask', now', quiet', rfl, still', unread', chosen'⟩ := ih there
      refine ⟨ask ++ .clock now :: (quiet ++ .slept wait :: ask'), now', quiet', by simp, still',
        unread', ?_⟩
      simpa using chosen'

/-- So it is with every sleep of an operation that begins by reading the clock. -/
theorem chosen_of_begun {started delay : τ} {front later : Log τ}
    (h : Paced Chosen [.clock started] log)
    (split : .clock started :: log = front ++ .slept delay :: later) :
    ∃ (ask quiet : Log τ) (now : τ), front = .clock started :: (ask ++ .clock now :: quiet) ∧
      quiet.acts = [] ∧ quiet.readings = [] ∧ Chosen front now delay := by
  cases front with
  | nil => cases split
  | cons e front =>
    injection split with first others
    obtain ⟨ask, quiet, now, rfl, still, unread, chosen⟩ := h.chosen_of_slept others
    rw [← first]
    exact ⟨ask, quiet, now, rfl, still, unread, chosen⟩

end Paced

/-! ## Sleeps within a budget -/

section Budget

variable {first deadline t middle last : Rat} {before log more : Log Rat} {starts : List Rat}

/-- What a log shows of the time never goes back: no reading of the clock is earlier than the one
before it, with the sleeps since then. -/
def Advances : Rat → Log Rat → Prop
  | _, [] => True
  | t, .clock now :: log => t ≤ now ∧ Advances now log
  | t, .slept delay :: log => Advances (t + delay) log
  | t, _ :: log => Advances t log

namespace Advances

/-- A log may begin earlier. -/
theorem of_le (h : Advances middle log) (earlier : t ≤ middle) : Advances t log := by
  induction log generalizing t middle with
  | nil => trivial
  | cons e log ih =>
    cases e with
    | clock now => exact ⟨Rat.le_trans earlier h.1, h.2⟩
    | slept delay =>
      have rest : Advances (middle + delay) log := h
      exact ih rest (Rat.add_le_add_right.mpr earlier)
    | sent _ _ | cancelled _ | drew _ _ | warned _ =>
      have rest : Advances middle log := h
      exact ih rest earlier

/-- What follows a part of a log without sleeps begins no earlier than that part, and just then if
the clock was not read in it. -/
theorem split (h : Advances t (log ++ more)) (unslept : log.slept = []) :
    ∃ middle, t ≤ middle ∧ (log.readings = [] → middle = t) ∧ Advances middle more := by
  induction log generalizing t with
  | nil => exact ⟨t, Rat.le_refl, fun _ => rfl, h⟩
  | cons e log ih =>
    cases e with
    | slept delay => cases unslept
    | clock now =>
      obtain ⟨middle, later, -, rest⟩ := ih h.2 unslept
      exact ⟨middle, Rat.le_trans h.1 later, nofun, rest⟩
    | sent _ _ | cancelled _ | drew _ _ | warned _ => exact ih (t := t) h unslept

end Advances

/-- The time of a log does not go back. -/
theorem Timed.advances (h : Timed t log starts last) : Advances t log := by
  induction h with
  | nil _ => trivial
  | sent passes _ ih => exact ih.of_le passes
  | slept _ ih => exact ih
  | clock _ ih => exact ⟨Rat.le_refl, ih⟩
  | cancelled _ ih | drew _ ih | warned _ ih => exact ih

/-- A delay ends within the deadline, and is not negative. -/
structure Fits (first deadline : Rat) (now delay : Rat) : Prop where
  natural : 0 ≤ delay
  within : delay ≤ deadline - (now - first)

namespace Paced

variable {Chosen : Log Rat → Rat → Rat → Prop}

/-- Sleeps that end within the deadline fit in what is left of it. -/
theorem sum_slept_le (h : Paced (fun _ => Fits first deadline) before log)
    (advances : Advances t log) (begins : t ≤ first + deadline) :
    log.slept.sum ≤ first + deadline - t := by
  induction h generalizing t with
  | @ends _ log last =>
    have none : log.slept = [] := by
      rw [← slept_acts]
      rcases last with none | ⟨request, answer, one⟩
      · rw [none, slept_nil]
      · rw [one]
        rfl
    rw [none, List.sum_nil]
    grind
  | @sleeps before ask quiet log request answer now delay asked still unread fits _ ih =>
    have awake : ask.slept = [] := by
      rw [← slept_acts, asked]
      rfl
    have calm : quiet.slept = [] := by rw [← slept_acts, still, slept_nil]
    obtain ⟨middle, later, -, passes, rest⟩ := advances.split awake
    obtain ⟨woken, -, same, slept⟩ := rest.split calm
    cases same unread
    have others := ih (t := now + delay) slept (by have := fits.within; grind)
    have all : Log.slept (ask ++ .clock now :: (quiet ++ .slept delay :: log)) =
        delay :: log.slept := by simp [awake, calm]
    rw [all, List.sum_cons]
    grind

/-- Where time passes only in requests and sleeps, requests between such sleeps begin within the
deadline. What carries the induction is that a round begins within it: the sleep before it ends
there. -/
theorem starts_le (h : Paced (fun _ => Fits first deadline) before log)
    (timed : Timed t log starts last) (begins : t ≤ first + deadline) :
    ∀ u ∈ starts, t ≤ u ∧ u ≤ first + deadline := by
  induction h generalizing t starts with
  | ends one =>
    rcases one with none | ⟨request, answer, one⟩
    · obtain ⟨rfl, -⟩ := timed.of_quiet none
      exact nofun
    · obtain ⟨rfl, -⟩ := timed.of_single one
      exact List.forall_mem_singleton.mpr ⟨Rat.le_refl, begins⟩
  | @sleeps before ask quiet log request answer now delay asked still unread fits _ ih =>
    obtain ⟨natural, within⟩ := fits
    obtain ⟨middle, early, late, rfl, asking, read⟩ := timed.split
    obtain ⟨rfl, passes⟩ := asking.of_single asked
    cases read with
    | clock waiting =>
      obtain ⟨woken, calm, late, rfl, waited, sleeping⟩ := waiting.split
      obtain ⟨rfl, rfl⟩ := waited.of_quiet still
      cases sleeping with
      | slept rest =>
        have begun := ih rest (by grind)
        refine List.forall_mem_cons.mpr ⟨⟨Rat.le_refl, begins⟩, fun u mem => ?_⟩
        obtain ⟨later, ends⟩ := begun u mem
        exact ⟨by grind, ends⟩

/-- The first request begins at once. -/
theorem begins (h : Paced Chosen before log) (timed : Timed t log starts last) :
    starts = [] ∨ ∃ later, starts = t :: later := by
  cases h with
  | ends one =>
    rcases one with none | ⟨request, answer, one⟩
    · exact .inl (timed.of_quiet none).1
    · exact .inr ⟨[], (timed.of_single one).1⟩
  | sleeps asked _ _ _ _ =>
    obtain ⟨middle, early, late, rfl, asking, -⟩ := timed.split
    obtain ⟨rfl, -⟩ := asking.of_single asked
    exact .inr ⟨late, rfl⟩

end Paced
end Budget
end Log
end GatewayClient
