import GatewayClient.Proofs.Program.Ensures
import Mathlib.Data.List.Basic

/-!
# Loops side by side

Programs that run side by side are the loops of a pool. They share one state of the world, and each
of them has a state of its own besides, such as a clock. A schedule says which loop makes the next
step. Any list of places is one, so no loop holds up another, however long it sleeps.

Loops do not interfere where each keeps to a part of the world (`World.Parted`): its steps leave a
footprint, which no more than its own view of the shared state has a say in, and which is not seen
from where another loop stands.

**Such loops stay apart** (`Pool.Apart.follow`), whoever makes the next steps. So after any schedule
a loop has made the first steps of its run alone, as many as the schedule has for it
(`Pool.Apart.logOf_eq`), and it is done, with the result of that run, where these are all
(`Pool.Apart.run?_eq`).
-/

set_option autoImplicit false

namespace GatewayClient

variable {σ κ τ α ι ν : Type}

/-! ## Single steps -/

namespace Program

/-- One step of a program: what happens, how the program goes on, and the state that it leaves the
world in. There is none where the program is done. -/
def step? (w : World σ τ) : Program τ α → σ → Option (Event τ × Program τ α × σ)
  | done _, _ => none
  | send request next, s =>
    let (answer, s) := w.send request s
    some (.sent request (some answer), next answer, s)
  | sendWatched request next, s =>
    let (answer, s) := w.sendWatched request s
    some (.sent request answer, next answer, s)
  | sleep delay next, s => some (.slept delay, next, w.sleep delay s)
  | clock next, s =>
    let (now, s) := w.clock s
    some (.clock now, next now, s)
  | cancelled next, s =>
    let (isSet, s) := w.cancelled s
    some (.cancelled isSet, next isSet, s)
  | draw source next, s =>
    let (chance, s) := w.draw source s
    some (.drew source chance, next chance, s)
  | warn warning next, s => some (.warned warning, next, s)

section Step

variable {w : World σ τ} {p q : Program τ α} {e : Event τ} {s s' : σ}

/-- A program without a step is done. -/
theorem exists_of_step?_eq_none (none : p.step? w s = none) : ∃ a, p = .done a := by
  cases p with
  | done a => exact ⟨a, rfl⟩
  | _ => cases none

/-- A run is its first step, and then the run of what goes on. -/
theorem run_of_step? (step : p.step? w s = some (e, q, s')) :
    p.run w s = (q.run w s').after e := by
  cases p with
  | done _ => cases step
  | _ => cases step; rfl

/-- What follows a step makes a trace with it. -/
theorem traces_of_step? (step : p.step? w s = some (e, q, s')) {log : Log τ} {a : α}
    (rest : q.Traces log a) : p.Traces (e :: log) a := by
  cases p with
  | done _ => cases step
  | send _ _ => cases step; exact .send _ rest
  | sendWatched _ _ => cases step; exact .sendWatched _ rest
  | sleep _ _ => cases step; exact .sleep rest
  | clock _ => cases step; exact .clock _ rest
  | cancelled _ => cases step; exact .cancelled _ rest
  | draw _ _ => cases step; exact .draw _ rest
  | warn _ _ => cases step; exact .warn rest

/-- Of that kind is the first step, and so are all the others. -/
theorem Keeps.of_step? {P : Event τ → Prop} (keeps : p.Keeps P)
    (step : p.step? w s = some (e, q, s')) : P e ∧ q.Keeps P := by
  constructor
  · exact keeps (traces_of_step? step (traces_run w q s')) e (.head _)
  · intro log a rest e mem
    exact keeps (traces_of_step? step rest) e (.tail _ mem)

end Step

/-- What a run among others comes to where there are no others. -/
def runAlone (w : World (σ × κ) τ) (p : Program τ α) (s : σ) (own : κ) : Run κ τ α :=
  let run := p.run w (s, own)
  { result := run.result, events := run.events, state := run.state.2 }

section Alone

variable {w : World (σ × κ) τ} {p q : Program τ α} {e : Event τ} {s s' : σ} {own own' : κ}

/-- A run alone is its first step, and then the run alone of what goes on. -/
theorem runAlone_of_step? (step : p.step? w (s, own) = some (e, q, s', own')) :
    p.runAlone w s own = (q.runAlone w s' own').after e := by
  unfold runAlone
  rw [run_of_step? step]
  rfl

/-- The steps of a run alone are of the kind that the program's are of. -/
theorem Keeps.runAlone {P : Event τ → Prop} (keeps : p.Keeps P) (w : World (σ × κ) τ) (s : σ)
    (own : κ) : ∀ e ∈ (p.runAlone w s own).events, P e :=
  keeps (traces_run w p (s, own))

end Alone

end Program

open Program (step? Keeps)

/-! ## Worlds in parts -/

/-- A world where those who keep to their footprints do not meet. What a step does depends on no
more of the shared state than the view of whoever makes it, and nobody else sees of it. -/
structure World.Parted (w : World (σ × κ) τ) (view : ι → σ → ν)
    (footprint : ι → Event τ → Prop) : Prop where
  same_step : ∀ {α : Type} {p q : Program τ α} {e : Event τ} {i : ι} {s t s' : σ} {own own' : κ},
    view i s = view i t → step? w p (s, own) = some (e, q, s', own') → footprint i e →
      ∃ t', step? w p (t, own) = some (e, q, t', own') ∧ view i s' = view i t'
  unseen : ∀ {α : Type} {p q : Program τ α} {e : Event τ} {i j : ι} {s s' : σ} {own own' : κ},
    i ≠ j → step? w p (s, own) = some (e, q, s', own') → footprint j e → view i s' = view i s

section Parted

variable {w : World (σ × κ) τ} {view : ι → σ → ν} {footprint : ι → Event τ → Prop} {i : ι}

/-- What looks the same runs the same. -/
theorem World.Parted.runAlone_eq (parted : w.Parted view footprint) {p : Program τ α}
    (keeps : p.Keeps (footprint i)) {s t : σ} (alike : view i s = view i t) (own : κ) :
    p.runAlone w s own = p.runAlone w t own := by
  cases step : p.step? w (s, own) with
  | none =>
    obtain ⟨a, rfl⟩ := Program.exists_of_step?_eq_none step
    rfl
  | some next =>
    obtain ⟨e, q, s', own'⟩ := next
    obtain ⟨within, rest⟩ := keeps.of_step? step
    obtain ⟨t', same, alike'⟩ := parted.same_step alike step within
    -- The step is made from both states, and they still look alike where it leaves them.
    have ih := parted.runAlone_eq rest alike' own'
    rw [Program.runAlone_of_step? step, Program.runAlone_of_step? same, ih]
termination_by (p.run w (s, own)).events.length
decreasing_by
  rw [Program.run_of_step? step]
  exact Nat.lt_succ_self _

end Parted

/-! ## Loops side by side -/

/-- A program under way, with a state of its own. -/
structure Loop (κ τ α : Type) where
  program : Program τ α
  own : κ

/-- What a loop came to, once it is done. -/
def Loop.run? (loop : Loop κ τ α) (log : Log τ) : Option (Run κ τ α) :=
  match loop.program with
  | .done result => some { result, events := log, state := loop.own }
  | _ => none

/-- Loops with a state that they share. The log has the steps of all of them, each under the place
of its loop. -/
structure Pool (σ κ τ α : Type) where
  shared : σ
  loops : List (Loop κ τ α)
  log : List (Nat × Event τ) := []

namespace Pool

/-- Let the loop in a place make a step, unless it is done. -/
def step (w : World (σ × κ) τ) (pool : Pool σ κ τ α) (i : Nat) : Pool σ κ τ α :=
  match pool.loops[i]? with
  | none => pool
  | some loop =>
    match loop.program.step? w (pool.shared, loop.own) with
    | none => pool
    | some (e, program, shared, own) =>
      { shared
        loops := pool.loops.set i { program, own }
        log := pool.log ++ [(i, e)] }

/-- Let loops make steps, in the order of a schedule. -/
def follow (w : World (σ × κ) τ) (pool : Pool σ κ τ α) (schedule : List Nat) : Pool σ κ τ α :=
  schedule.foldl (step w) pool

/-- The steps of the loop in a place. -/
def logOf (pool : Pool σ κ τ α) (i : Nat) : Log τ :=
  pool.log.filterMap fun entry => if entry.1 = i then some entry.2 else none

/-- What the loop in a place came to, once it is done. -/
def run? (pool : Pool σ κ τ α) (i : Nat) : Option (Run κ τ α) :=
  pool.loops[i]?.bind fun loop => loop.run? (pool.logOf i)

/-- What all loops came to, once all are done. -/
def runs? (pool : Pool σ κ τ α) : Option (List (Run κ τ α)) :=
  (List.range pool.loops.length).mapM pool.run?

/-- A loop for each of some labels, none of which has made a step. -/
def fresh (s : σ) (labels : List ι) (program : ι → Program τ α) (own : ι → κ) : Pool σ κ τ α :=
  { shared := s, loops := labels.map fun label => { program := program label, own := own label } }

section Step

variable {w : World (σ × κ) τ} {pool : Pool σ κ τ α}

/-- What a turn does: nothing where there is no step to make, and else the step of one loop. -/
theorem step_cases (w : World (σ × κ) τ) (pool : Pool σ κ τ α) (i : Nat) :
    (pool.step w i = pool ∧
      ∀ loop, pool.loops[i]? = some loop → loop.program.step? w (pool.shared, loop.own) = none) ∨
    ∃ loop e program shared own, pool.loops[i]? = some loop ∧
      loop.program.step? w (pool.shared, loop.own) = some (e, program, shared, own) ∧
      pool.step w i = ⟨shared, pool.loops.set i ⟨program, own⟩, pool.log ++ [(i, e)]⟩ := by
  unfold step
  cases found : pool.loops[i]? with
  | none => exact .inl ⟨rfl, nofun⟩
  | some loop =>
    cases step : loop.program.step? w (pool.shared, loop.own) with
    | none =>
      refine .inl ⟨by simp only [step], fun other same => ?_⟩
      cases same
      exact step
    | some next => exact .inr ⟨loop, _, _, _, _, rfl, step, by simp only [step]⟩

/-- A step goes into the log of its own loop. -/
theorem logOf_concat (shared : σ) (loops : List (Loop κ τ α)) (log : List (Nat × Event τ))
    (i j : Nat) (e : Event τ) : logOf ⟨shared, loops, log ++ [(i, e)]⟩ j =
      logOf ⟨shared, loops, log⟩ j ++ if i = j then [e] else [] := by
  unfold logOf
  rw [List.filterMap_append]
  by_cases same : i = j <;> simp [same]

end Step

end Pool

/-! ## Beside the run alone -/

/-- A loop has made the first `n` steps of its run alone, and what is ahead of it is the rest of
that run. -/
structure Loop.Abreast (w : World (σ × κ) τ) (P : Event τ → Prop) (alone : Run κ τ α) (n : Nat)
    (s : σ) (log : Log τ) (loop : Loop κ τ α) : Prop where
  keeps : loop.program.Keeps P
  behind : log = alone.events.take n
  ahead : loop.program.runAlone w s loop.own = { alone with events := alone.events.drop n }

namespace Loop.Abreast

variable {w : World (σ × κ) τ} {P : Event τ → Prop} {alone : Run κ τ α} {n : Nat} {s s' : σ}
variable {log : Log τ} {loop : Loop κ τ α} {e : Event τ} {program : Program τ α} {own : κ}

/-- A step is the next one of the run alone. -/
theorem step (h : loop.Abreast w P alone n s log)
    (step : loop.program.step? w (s, loop.own) = some (e, program, s', own)) :
    Abreast w P alone (n + 1) s' (log ++ [e]) ⟨program, own⟩ := by
  have rest := h.ahead
  rw [Program.runAlone_of_step? step, Run.mk.injEq] at rest
  obtain ⟨result, events, state⟩ := rest
  have next : alone.events[n]? = some e := by
    rw [← List.head?_drop, ← events]
    rfl
  have later : alone.events.drop (n + 1) = (program.runAlone w s' own).events := by
    rw [← List.tail_drop, ← events]
    rfl
  refine ⟨(h.keeps.of_step? step).2, ?_, ?_⟩
  · rw [h.behind, List.take_add_one, next, Option.toList_some]
  · rw [later, ← result, ← state]
    rfl

/-- A loop that is done has made all the steps of its run alone. -/
theorem rest (h : loop.Abreast w P alone n s log)
    (none : loop.program.step? w (s, loop.own) = none) : loop.Abreast w P alone (n + 1) s log := by
  obtain ⟨a, done⟩ := Program.exists_of_step?_eq_none none
  have whole := h.ahead
  rw [done, Run.mk.injEq] at whole
  obtain ⟨result, events, state⟩ := whole
  have all : alone.events.length ≤ n := List.drop_eq_nil_iff.mp events.symm
  refine ⟨h.keeps, ?_, ?_⟩
  · rw [h.behind, List.take_of_length_le all, List.take_of_length_le (Nat.le_succ_of_le all)]
  · rw [h.ahead, List.drop_of_length_le all, List.drop_of_length_le (Nat.le_succ_of_le all)]

/-- A loop is done where it has made all steps of its run alone, and came to what that comes to. -/
theorem run?_eq (h : loop.Abreast w P alone n s log) :
    loop.run? log = if alone.events.length ≤ n then some alone else none := by
  obtain ⟨program, own⟩ := loop
  cases step : program.step? w (s, own) with
  | none =>
    obtain ⟨a, rfl⟩ := Program.exists_of_step?_eq_none step
    have whole := h.ahead
    rw [Run.mk.injEq] at whole
    obtain ⟨result, events, state⟩ := whole
    have all : alone.events.length ≤ n := List.drop_eq_nil_iff.mp events.symm
    have behind := h.behind
    rw [List.take_of_length_le all] at behind
    rw [if_pos all, run?, behind]
    cases result
    cases state
    rfl
  | some next =>
    have ahead := congrArg Run.events h.ahead
    rw [Program.runAlone_of_step? step] at ahead
    have some_left : ¬ alone.events.length ≤ n := by
      intro all
      rw [List.drop_of_length_le all] at ahead
      cases ahead
    rw [if_neg some_left]
    cases program with
    | done _ => cases step
    | _ => rfl

/-- The steps of others go unnoticed. -/
theorem of_alike {view : ι → σ → ν} {footprint : ι → Event τ → Prop} {i : ι}
    (parted : w.Parted view footprint) (h : loop.Abreast w (footprint i) alone n s log)
    (alike : view i s' = view i s) : loop.Abreast w (footprint i) alone n s' log :=
  ⟨h.keeps, h.behind, (parted.runAlone_eq h.keeps alike loop.own).trans h.ahead⟩

end Loop.Abreast

namespace Pool

/-! ## Loops that stay apart -/

/-- Each loop of a pool is where its run alone is after as many steps as a schedule has for it, and
has kept to its footprint. -/
structure Apart (w : World (σ × κ) τ) (footprint : ι → Event τ → Prop) (labels : List ι)
    (alone : ι → Run κ τ α) (schedule : List Nat) (pool : Pool σ κ τ α) : Prop where
  length_eq : pool.loops.length = labels.length
  abreast : ∀ {i : Nat} {label : ι}, labels[i]? = some label → ∃ loop, pool.loops[i]? = some loop ∧
    loop.Abreast w (footprint label) (alone label) (schedule.count i) pool.shared (pool.logOf i)
  within : ∀ entry ∈ pool.log, ∃ label, labels[entry.1]? = some label ∧ footprint label entry.2

section Apart

variable {w : World (σ × κ) τ} {view : ι → σ → ν} {footprint : ι → Event τ → Prop}
variable {labels : List ι} {alone : ι → Run κ τ α} {schedule : List Nat} {pool : Pool σ κ τ α}

/-- Loops in different places have different labels. -/
theorem ne_of_places (distinct : labels.Nodup) {i j : Nat} {label other : ι}
    (here : labels[i]? = some label) (there : labels[j]? = some other) (apart : i ≠ j) :
    label ≠ other := by
  rintro rfl
  have inside : i < labels.length := (List.getElem?_eq_some_iff.mp here).1
  exact apart ((List.getElem?_inj inside distinct).mp (here.trans there.symm))

/-- A turn moves one loop on, and no other one notices. -/
theorem Apart.step (parted : w.Parted view footprint) (distinct : labels.Nodup)
    (h : pool.Apart w footprint labels alone schedule) (j : Nat) :
    (pool.step w j).Apart w footprint labels alone (schedule ++ [j]) := by
  have others : ∀ {i : Nat}, j ≠ i → (schedule ++ [j]).count i = schedule.count i := by
    intro i other
    rw [List.count_append, List.count_singleton, if_neg (by simpa using other), Nat.add_zero]
  have own : (schedule ++ [j]).count j = schedule.count j + 1 := by
    rw [List.count_append, List.count_singleton_self]
  rcases step_cases w pool j with ⟨same, idle⟩ | ⟨loop, e, program, shared, mine, found, step, same⟩
  · rw [same]
    refine ⟨h.length_eq, fun {i label} place => ?_, h.within⟩
    obtain ⟨loop, found, abreast⟩ := h.abreast place
    by_cases turn : j = i
    · subst turn
      exact ⟨loop, found, own ▸ abreast.rest (idle loop found)⟩
    · exact ⟨loop, found, others turn ▸ abreast⟩
  · have inside : j < pool.loops.length := (List.getElem?_eq_some_iff.mp found).1
    obtain ⟨actor, at_turn⟩ : ∃ label, labels[j]? = some label :=
      ⟨_, List.getElem?_eq_getElem (h.length_eq ▸ inside)⟩
    obtain ⟨_, same_loop, abreast⟩ := h.abreast at_turn
    obtain rfl := Option.some_inj.mp (found.symm.trans same_loop)
    have kept : footprint actor e := (abreast.keeps.of_step? step).1
    rw [same]
    -- The loop whose turn it is goes on. Every other one has its own view, which the step leaves.
    refine ⟨(List.length_set ..).trans h.length_eq, fun {i label} place => ?_, ?_⟩
    · rw [logOf_concat]
      by_cases turn : j = i
      · subst turn
        obtain rfl := Option.some_inj.mp (at_turn.symm.trans place)
        rw [if_pos rfl, own]
        exact ⟨_, List.getElem?_set_self inside, abreast.step step⟩
      · have apart : label ≠ actor := (ne_of_places distinct at_turn place turn).symm
        obtain ⟨other, there, before⟩ := h.abreast place
        rw [if_neg turn, List.append_nil, others turn]
        exact ⟨other, (List.getElem?_set_ne turn).trans there,
          before.of_alike parted (parted.unseen apart step kept)⟩
    · intro entry mem
      rcases List.mem_append.mp mem with earlier | now
      · exact h.within entry earlier
      · cases List.mem_singleton.mp now
        exact ⟨actor, at_turn, kept⟩

/-- Loops that have made no step are where their runs alone begin. -/
theorem apart_fresh (s : σ) (labels : List ι) {program : ι → Program τ α} (own : ι → κ)
    (keeps : ∀ label ∈ labels, (program label).Keeps (footprint label)) :
    (fresh s labels program own).Apart w footprint labels
      (fun label => (program label).runAlone w s (own label)) [] := by
  refine ⟨List.length_map .., fun {i label} place => ?_, nofun⟩
  refine ⟨⟨program label, own label⟩, ?_, keeps label (List.mem_of_getElem? place), rfl, rfl⟩
  show (labels.map _)[i]? = _
  rw [List.getElem?_map, place, Option.map_some]

/-- Loops that are apart stay so, whoever makes the next steps. -/
theorem Apart.follow (parted : w.Parted view footprint) (distinct : labels.Nodup)
    (h : pool.Apart w footprint labels alone schedule) (more : List Nat) :
    (pool.follow w more).Apart w footprint labels alone (schedule ++ more) := by
  induction more generalizing pool schedule with
  | nil => rwa [List.append_nil]
  | cons i more ih =>
    rw [List.append_cons]
    exact ih (h.step parted distinct i)

end Apart

/-! ## What a loop comes to -/

section Isolation

variable {w : World (σ × κ) τ} {view : ι → σ → ν} {footprint : ι → Event τ → Prop}
variable {labels : List ι} {alone : ι → Run κ τ α} {schedule : List Nat} {pool : Pool σ κ τ α}

/-- A loop has made the first steps of its run alone. -/
theorem Apart.logOf_eq (h : pool.Apart w footprint labels alone schedule) {i : Nat} {label : ι}
    (place : labels[i]? = some label) :
    pool.logOf i = (alone label).events.take (schedule.count i) := by
  obtain ⟨loop, -, abreast⟩ := h.abreast place
  exact abreast.behind

/-- A loop is done where it has made all steps of its run alone, and came to what that comes to. -/
theorem Apart.run?_eq (h : pool.Apart w footprint labels alone schedule) {i : Nat} {label : ι}
    (place : labels[i]? = some label) :
    pool.run? i =
      if (alone label).events.length ≤ schedule.count i then some (alone label) else none := by
  obtain ⟨loop, found, abreast⟩ := h.abreast place
  rw [run?, found, Option.bind_some, abreast.run?_eq]

/-- What only one loop leaves behind is found in the log of all where it is found in that of the
loop. -/
theorem Apart.filterMap_log (h : pool.Apart w footprint labels alone schedule)
    (distinct : labels.Nodup) {i : Nat} {label : ι} (place : labels[i]? = some label) {β : Type}
    {pick : Event τ → Option β}
    (only : ∀ other e, footprint other e → other ≠ label → pick e = none) :
    (pool.log.map Prod.snd).filterMap pick = (pool.logOf i).filterMap pick := by
  rw [logOf, List.filterMap_filterMap, List.filterMap_map]
  apply List.filterMap_congr
  intro entry mem
  by_cases own : entry.1 = i
  · rw [if_pos own, Option.bind_some, Function.comp_apply]
  · obtain ⟨other, there, within⟩ := h.within entry mem
    have apart : other ≠ label := ne_of_places distinct there place own
    rw [if_neg own, Option.bind_none, Function.comp_apply, only other entry.2 within apart]

/-- What no loop leaves behind is not found. -/
theorem Apart.filterMap_log_eq_nil (h : pool.Apart w footprint labels alone schedule) {β : Type}
    {pick : Event τ → Option β} (none : ∀ label ∈ labels, ∀ e, footprint label e → pick e = none) :
    (pool.log.map Prod.snd).filterMap pick = [] := by
  rw [List.filterMap_eq_nil_iff]
  intro e mem
  obtain ⟨entry, logged, rfl⟩ := List.mem_map.mp mem
  obtain ⟨label, place, within⟩ := h.within entry logged
  exact none label (List.mem_of_getElem? place) entry.2 within

/-- Items are read if each of them is. -/
theorem mapM_eq_some_iff {β : Type} {f : α → Option β} {items : List α} {read : List β} :
    items.mapM f = some read ↔ items.map f = read.map some := by
  induction items generalizing read with
  | nil => cases read <;> simp
  | cons item items ih => cases read <;> simp [Option.bind_eq_some_iff, ← ih]

/-- What the loop in each place came to, place by place. -/
theorem Apart.getElem?_map_run? (h : pool.Apart w footprint labels alone schedule) (i : Nat) :
    ((List.range pool.loops.length).map pool.run?)[i]? = labels[i]?.map fun label =>
      if (alone label).events.length ≤ schedule.count i then some (alone label) else none := by
  rw [List.getElem?_map]
  cases place : labels[i]? with
  | none =>
    have outside : ¬ i < pool.loops.length := by
      rw [h.length_eq]
      exact Nat.not_lt.mpr (List.getElem?_eq_none_iff.mp place)
    simp [outside]
  | some label =>
    have inside : i < pool.loops.length := h.length_eq ▸ (List.getElem?_eq_some_iff.mp place).1
    rw [List.getElem?_range inside, Option.map_some, Option.map_some, h.run?_eq place]

/-- All loops are done where a schedule has room for all steps of their runs alone, and came to what
those come to. -/
theorem Apart.runs?_eq_some_iff (h : pool.Apart w footprint labels alone schedule)
    {runs : List (Run κ τ α)} : pool.runs? = some runs ↔
      (∀ i label, labels[i]? = some label → (alone label).events.length ≤ schedule.count i) ∧
        runs = labels.map alone := by
  rw [runs?, mapM_eq_some_iff, List.ext_getElem?_iff]
  simp only [h.getElem?_map_run?, List.getElem?_map]
  constructor
  · intro read
    have each : ∀ i label, labels[i]? = some label →
        (alone label).events.length ≤ schedule.count i ∧ runs[i]? = some (alone label) := by
      intro i label place
      have here := (read i).symm
      rw [place, Option.map_some] at here
      obtain ⟨run, found, same⟩ := Option.map_eq_some_iff.mp here
      by_cases all : (alone label).events.length ≤ schedule.count i
      · rw [if_pos all, Option.some_inj] at same
        exact ⟨all, same ▸ found⟩
      · rw [if_neg all] at same
        cases same
    refine ⟨fun i label place => (each i label place).1, List.ext_getElem? fun i => ?_⟩
    rw [List.getElem?_map]
    cases place : labels[i]? with
    | none =>
      have here := (read i).symm
      rw [place] at here
      exact Option.map_eq_none_iff.mp here
    | some label => exact (each i label place).2
  · rintro ⟨all, rfl⟩ i
    rw [List.getElem?_map, Option.map_map]
    cases place : labels[i]? with
    | none => rfl
    | some label =>
      rw [Option.map_some, Option.map_some, if_pos (all i label place)]
      rfl

end Isolation

end Pool
end GatewayClient
