/-
# Cells

A value on the wire is a cell: a tag, a payload that only the tag explains, and a mark that says
whether the cell owns what its payload points to.  Scalars are the payload; texts, handle records
and callable records lie outside, and so do the elements of an array, which are cells themselves.

Cells come from other runtimes too, so nothing forces tag and payload to agree: every reader looks
at the tag first and gives nothing when it asks for another kind.
-/
import RuntimeBridge.Value.Scalar
import RuntimeBridge.Cell.TextBuffer
import RuntimeBridge.Handle.Record
import RuntimeBridge.Call.Point
import RuntimeBridge.Type.Info
namespace RuntimeBridge

/-! ## 1. Cells -/

/-- Payloads other than arrays.  The null pointer of any kind is the word 0. -/
inductive Payload where
  | word (w : UInt64)
  | text (buffer : TextBuffer)
  | handle (record : HandleRecord)
  | callable (record : CallableRecord)
  deriving DecidableEq, Repr

inductive Cell where
  | plain (tag : TypeTag) (payload : Payload) (owned : Bool)
  | array (tag : TypeTag) (items : List Cell) (dimensions : Int) (owned : Bool)

instance : Inhabited Cell := ⟨.plain .null (.word 0) false⟩

namespace Cell

def tag : Cell → TypeTag
  | plain tag _ _ => tag
  | array tag _ _ _ => tag

def owned : Cell → Bool
  | plain _ _ owned => owned
  | array _ _ _ owned => owned

/-! ## 2. New cells -/

/-- The cell of no value. -/
def null : Cell := plain .null (.word 0) false

def ofScalar (s : Scalar) : Cell := plain s.tag (.word s.toWord) false

/-- The cell of a text that holds no NUL. -/
def ofText (w : Width) (s : String) : Cell :=
  plain (.ofKind (.string w)) (.text (.ofText w s)) true

def ofHandle (r : HandleRecord) : Cell := plain .handle (.handle r) true

def ofCallable (r : CallableRecord) : Cell := plain .callable (.callable r) true

/-- The cell of an array with leaves of `leaf`. -/
def ofArray (leaf : TypeTag) (items : List Cell) (dimensions : Int) : Cell :=
  array leaf.withArray items dimensions true

/-! ## 3. Readers -/

def isNull (c : Cell) : Bool := c.tag == .null

/-- The word of the payload; payloads that are no words count as zero. -/
def word : Cell → UInt64
  | plain _ (.word w) _ => w
  | _ => 0

/-- The scalar of the cell, if its tag is one of a scalar. -/
def scalar? (c : Cell) : Option Scalar :=
  c.tag.kind?.bind fun kind => Scalar.ofWord? kind c.word

/-- The scalar of exactly this kind. -/
def scalarOf? (kind : BaseKind) (c : Cell) : Option Scalar :=
  if c.tag == .ofKind kind then Scalar.ofWord? kind c.word else none

/-- The text of the cell.  A text cell without buffer holds the empty text. -/
def text? (c : Cell) : Option String :=
  match c.tag.kind? with
  | some (.string w) =>
    match c with
    | plain _ (.text b) _ => if b.width == w then b.text? else none
    | plain _ (.word _) _ => some ""
    | _ => none
  | _ => none

/-- The handle record of a handle cell. -/
def handle? : Cell → Option HandleRecord
  | plain tag (.handle r) _ => if tag == .handle then some r else none
  | _ => none

/-- The callable record of a callable cell. -/
def callable? : Cell → Option CallableRecord
  | plain tag (.callable r) _ => if tag == .callable then some r else none
  | _ => none

/-- Elements and dimensions of a cell with array tag. -/
def array? : Cell → Option (List Cell × Int)
  | array tag items dimensions _ => if tag.isArray then some (items, dimensions) else none
  | _ => none

/-- Elements of a cell with array tag. -/
def items? (c : Cell) : Option (List Cell) :=
  c.array?.map Prod.fst

/-- The tag that all cells share; `any` when they differ or there are none. -/
def commonTag : List Cell → TypeTag
  | [] => .any
  | first :: rest => if rest.all fun c => c.tag == first.tag then first.tag else .any

/-! ## 4. What a cell owns -/

mutual

/-- The callable records that go when the cell is freed. -/
def ownedRecords : Cell → List CallableRecord
  | plain tag payload owned =>
    match payload with
    | .callable r => if owned && tag == .callable then [r] else []
    | _ => []
  | array tag items _ owned => if owned && tag.isArray then ownedRecordsOf items else []

/-- The callable records that go when all of the cells are freed. -/
def ownedRecordsOf : List Cell → List CallableRecord
  | [] => []
  | c :: cs => ownedRecords c ++ ownedRecordsOf cs

end

theorem ownedRecordsOf_eq_flatMap (cs : List Cell) :
    ownedRecordsOf cs = cs.flatMap ownedRecords := by
  induction cs with
  | nil => rfl
  | cons c cs ih => simp [ownedRecordsOf, ih]

theorem ownedRecords_null : ownedRecords null = [] := rfl

end Cell

end RuntimeBridge
