import DashAgent.Switch.Object
import DashAgent.Switch.Status

/-!
# The driver boundary

Everything asked of a switch goes through `Driver`. A driver is a state that answers a request and
moves on; also a call that fails moves it on, so the new state stands beside the answer and not
inside it. Bulk calls answer each request in order. An answer may be shorter than the request, in
which case the driver stopped early, and the callers treat what is missing as not executed.
-/
namespace DashAgent

/-- One object to create. Without an entry key the driver allocates an identifier. -/
structure CreateRequest where
  entry : Option String
  attributes : List Attribute
  deriving DecidableEq, Repr

structure CreateAnswer where
  status : Status
  /-- The identifier allocated for a successful create without an entry key. -/
  objectId : Option ObjectId
  deriving DecidableEq, Repr

def CreateAnswer.failed (status : Status) : CreateAnswer := ⟨status, none⟩

class Driver (δ : Type) where
  switchId : δ → ObjectId
  bulkCreate : ObjectType → List CreateRequest → δ → Except DriverError (List CreateAnswer) × δ
  bulkRemove : ObjectType → List ObjectKey → δ → Except DriverError (List Status) × δ
  readAttribute : ObjectId → AttributeId → δ → Except Status AttributeValue × δ
  availability : ObjectType → List Qualifier → δ → Except Status Nat × δ
  dump : δ → Except DriverError Unit × δ

namespace Driver

variable {δ : Type} [Driver δ]

/-- Creates one object; no answer means that it was not executed. -/
def create (type : ObjectType) (request : CreateRequest) (d : δ) :
    Except DriverError CreateAnswer × δ :=
  let (answer, d) := bulkCreate type [request] d
  (answer.map fun answers => answers.headD (.failed .notExecuted), d)

/-- Removes one object; no answer means that it was not executed. -/
def remove (type : ObjectType) (key : ObjectKey) (d : δ) : Except DriverError Status × δ :=
  let (answer, d) := bulkRemove type [key] d
  (answer.map fun answers => answers.headD .notExecuted, d)

end Driver

end DashAgent
