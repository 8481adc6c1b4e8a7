import GatewayClient.Text.Basic
import GatewayClient.Text.Blank
import GatewayClient.Text.LowerCase

/-!
# Transaction status

A node reports the state of a transaction as a word. Which words it uses grows over time, so the
reading is a table of words and can be extended. A word that no list has means that the outcome
is not known, and so the transaction counts as pending.
-/

set_option autoImplicit false

namespace GatewayClient

/-- The states that a client tells apart. -/
inductive TransactionStatus where
  | pending
  | success
  | failed
  | invalid
deriving DecidableEq, Repr, Inhabited

namespace TransactionStatus

/-- The word for a state. -/
def name : TransactionStatus → String
  | .pending => "pending"
  | .success => "success"
  | .failed => "failed"
  | .invalid => "invalid"

/-- The state is final. -/
def isTerminal : TransactionStatus → Bool
  | .pending => false
  | _ => true

end TransactionStatus

/-- The words for each state. -/
structure StatusTable where
  success : List String := ["success", "successful", "executed"]
  failed : List String := ["fail", "failed", "reward-reverted", "rewardreverted", "notexecuted"]
  invalid : List String := ["invalid"]
  pending : List String := ["pending", "received", "partially-executed", "partiallyexecuted"]
deriving DecidableEq, Repr

namespace StatusTable

/-- The form in which a node's word is looked up: without blanks around it, in lower case. -/
def normalForm (word : String) : String := Text.lower (Text.strip word)

/-- The state that a word means. A word of several lists means the first of success, invalid and
failed. No list has a word with a surrogate. -/
def classify (t : StatusTable) (word : Text) : TransactionStatus :=
  match word.toString?.map normalForm with
  | none => .pending
  | some key =>
    if t.success.contains key then .success
    else if t.invalid.contains key then .invalid
    else if t.failed.contains key then .failed
    else .pending

/-- Some list has the word. -/
def knows (t : StatusTable) (word : Text) : Bool :=
  (word.toString?.map normalForm).any
    (t.success ++ t.invalid ++ t.failed ++ t.pending).contains

/-- Words added to one list, in lower case, those that it has already left out. -/
def merge (words more : List String) : List String :=
  (more.map Text.lower).foldl (fun all word => if all.contains word then all else all ++ [word])
    words

/-- The table with the words of another one added to its lists. -/
def extend (t more : StatusTable) : StatusTable :=
  { success := merge t.success more.success
    failed := merge t.failed more.failed
    invalid := merge t.invalid more.invalid
    pending := merge t.pending more.pending }

/-- No words at all. -/
def empty : StatusTable := ⟨[], [], [], []⟩

end StatusTable
end GatewayClient
