import DotPath.Json.Token

/-!
Documents from tokens.  The reader keeps a stack of the containers that are still open and takes one
token at a time, so that reading is a fold over the tokens; nesting is limited.
-/

set_option autoImplicit false
set_option relaxedAutoImplicit false

namespace DotPath.Json

def nestingLimit : Nat := 127

/-- A container that is still open, with what it holds so far, the last part first. -/
inductive Frame where
  | array (items : List Json)
  | object (members : List (String × Json)) (key : String)

/-- What the reader waits for.  `mayClose` holds right behind an opening bracket. -/
inductive State where
  | valueDue (frames : List Frame) (mayClose : Bool)
  | keyDue (members : List (String × Json)) (frames : List Frame) (mayClose : Bool)
  | colonDue (members : List (String × Json)) (key : String) (frames : List Frame)
  | behindValue (value : Json) (frames : List Frame)

namespace State

def startValue (frames : List Frame) : Token → Option State
  | .scalar value => some (.behindValue value frames)
  | .quoted content => some (.behindValue (.string content) frames)
  | .openArray =>
      if frames.length < nestingLimit then some (.valueDue (.array [] :: frames) true) else none
  | .openObject => if frames.length < nestingLimit then some (.keyDue [] frames true) else none
  | _ => none

def step : State → Token → Option State
  | .valueDue (.array [] :: frames) true, .closeArray => some (.behindValue (.array []) frames)
  | .valueDue frames _, token => startValue frames token
  | .keyDue _ frames true, .closeObject => some (.behindValue (.object []) frames)
  | .keyDue members frames _, .quoted key => some (.colonDue members key frames)
  | .colonDue members key frames, .colon => some (.valueDue (.object members key :: frames) false)
  | .behindValue value (.array items :: frames), .comma =>
      some (.valueDue (.array (value :: items) :: frames) false)
  | .behindValue value (.array items :: frames), .closeArray =>
      some (.behindValue (.array (value :: items).reverse) frames)
  | .behindValue value (.object members key :: frames), .comma =>
      some (.keyDue ((key, value) :: members) frames false)
  | .behindValue value (.object members key :: frames), .closeObject =>
      some (.behindValue (.ofMembers ((key, value) :: members).reverse) frames)
  | _, _ => none

end State

def ofTokens? (tokens : List Token) : Option Json :=
  match tokens.foldlM State.step (.valueDue [] false) with
  | some (.behindValue value []) => some value
  | _ => none

def ofString? (text : String) : Option Json := do
  ofTokens? (← Token.ofText? text.toList)

/-- Reads a document.  Why a text is none is put in words by the function given. -/
def read (cause : String → String) (text : String) : Except String Json :=
  match ofString? text with
  | some root => .ok root
  | none => .error (cause text)

theorem read_eq_ok_iff {cause : String → String} {text : String} {root : Json} :
    read cause text = .ok root ↔ ofString? text = some root := by
  unfold read
  cases ofString? text with
  | none => simp
  | some other => simp

end DotPath.Json
