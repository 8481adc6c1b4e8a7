import GatewayClient.Proofs.Schema.Decoding

/-!
# Objects that grow

A newer node may say more than the client knows: an object then has further keys, in any places and
with any values (`Json.Fields.Grows`). Readers take values by name, and so do schemas of objects.
What they do not name they do not see.

**An object that grows fits its schema as before** (`Schema.violations_grown`): what is wrong with
it is the same, in the same places and in the same words.
-/

set_option autoImplicit false

namespace GatewayClient

/-! ## Objects that grow -/

namespace Json.Fields

variable {names : List String} {o o' : Fields}

/-- The second object is the first one with further keys, anywhere and with any values. The names
are not among them. -/
inductive Grows (names : List String) : Fields → Fields → Prop
  | nil : Grows names [] []
  | keep {o o' : Fields} (field : Text × Json) (rest : Grows names o o') :
    Grows names (field :: o) (field :: o')
  | insert {o o' : Fields} {key : Text} (value : Json)
      (further : ∀ name ∈ names, key ≠ name)
      (rest : Grows names o o') : Grows names o ((key, value) :: o')

theorem Grows.refl (o : Fields) : Grows names o o := by
  induction o with
  | nil => exact .nil
  | cons field rest ih => exact .keep field ih

/-- An object that grows beside some names grows beside fewer. -/
theorem Grows.mono {fewer : List String} (h : Grows names o o')
    (named : ∀ key ∈ fewer, key ∈ names) : Grows fewer o o' := by
  induction h with
  | nil => exact .nil
  | keep field _ ih => exact .keep field ih
  | insert value further _ ih =>
    exact .insert value (fun name mem => further name (named name mem)) ih

/-- The second object has under the names what the first one has there. -/
def Agree (names : List String) (o o' : Fields) : Prop := ∀ key ∈ names, o'.get? key = o.get? key

theorem get?_cons (field : Text × Json) (rest : Fields) (key : Text) :
    get? (field :: rest) key = if field.1 == key then some field.2 else rest.get? key := by
  rw [get?, List.find?_cons]
  cases field.1 == key <;> rfl

/-- Further keys do not stand in the way of the names. -/
theorem Grows.agree (h : Grows names o o') : Agree names o o' := by
  intro key named
  induction h with
  | nil => rfl
  | keep field _ ih => rw [get?_cons, get?_cons, ih]
  | @insert _ _ inserted value further _ ih =>
    have other : ¬ (inserted == key) = true := fun same => further key named (eq_of_beq same)
    rw [get?_cons, if_neg other, ih]

namespace Agree

variable {key : String} (h : Agree names o o') (named : key ∈ names)
include h named

theorem text? : o'.text? key = o.text? key := by rw [Fields.text?, Fields.text?, h key named]

theorem number? : o'.number? key = o.number? key := by
  rw [Fields.number?, Fields.number?, h key named]

/-- What may be missing under a name is read alike. -/
theorem optional? {α : Type} (read : Json → Option α) :
    o'.optional? key read = o.optional? key read := by
  rw [Fields.optional?, Fields.optional?, h key named]

theorem filled? : o'.filled? key = o.filled? key := by
  rw [Fields.filled?, Fields.filled?, h.optional? named]

theorem items? : o'.items? key = o.items? key := by
  rw [Fields.items?, Fields.items?, h.optional? named]

end Agree
end Json.Fields

/-! ## Schemas -/

namespace Schema

open Json (Fields)

/-- The keys that a schema names. -/
def names : Schema → List String
  | .mk _ required fields .. => required ++ fields.map (·.1)

/-- What a schema asks for under a key. -/
def part (key : String) : Schema → Schema
  | .mk _ _ fields .. => (fields.lookup key).getD (any [])

variable {required : List String} {fields : List (String × Schema)} {o o' : Fields}

/-- What is wrong with the parts of an object depends on what is under the keys that are named. -/
theorem fieldViolations_congr
    (alike : ∀ field ∈ fields,
      (o'.get? field.1).map field.2.violations = (o.get? field.1).map field.2.violations) :
    fieldViolations fields (.obj o') = fieldViolations fields (.obj o) := by
  induction fields with
  | nil => rfl
  | cons field rest ih =>
    obtain ⟨key, schema⟩ := field
    obtain ⟨own, others⟩ := List.forall_mem_cons.mp alike
    have found (o : Fields) : (Json.obj o).get? key = o.get? key := rfl
    rw [fieldViolations, fieldViolations, ih others, found, found]
    change (o'.get? key).map schema.violations = (o.get? key).map schema.violations at own
    cases here : o'.get? key <;> cases there : o.get? key <;> rw [here, there] at own
    case cons.some.some value other =>
      dsimp only
      rw [show schema.violations value = schema.violations other from Option.some.inj own]
    all_goals cases own

/-- What is wrong with an object depends on which of the required keys are there, and on what is
under the keys that are named. -/
theorem violations_object_congr
    (present : ∀ key ∈ required, (o'.get? key).isNone = (o.get? key).isNone)
    (alike : ∀ field ∈ fields,
      (o'.get? field.1).map field.2.violations = (o.get? field.1).map field.2.violations) :
    (object required fields).violations (.obj o') =
      (object required fields).violations (.obj o) := by
  have missing : required.filter (fun key : String => (o'.get? key).isNone) =
      required.filter (fun key : String => (o.get? key).isNone) := List.filter_congr present
  unfold object violations
  simp only [ownMessages, missing, fieldViolations_congr alike]
  rfl

/-- An object that grows has what was wrong with it before, and nothing else. -/
theorem violations_grown (grows : Fields.Grows (object required fields).names o o') :
    (object required fields).violations (.obj o') =
      (object required fields).violations (.obj o) := by
  refine violations_object_congr (fun key mem => ?_) fun field mem => ?_
  · rw [grows.agree key (List.mem_append_left _ mem)]
  · rw [grows.agree field.1 (List.mem_append_right _ (List.mem_map_of_mem mem))]

end Schema
end GatewayClient
