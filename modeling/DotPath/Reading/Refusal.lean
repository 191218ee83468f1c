import DotPath.Log

/-!
Refusals: the ways in which reading a node as a scalar fails, each with the event that goes with it.
-/

set_option autoImplicit false
set_option relaxedAutoImplicit false

namespace DotPath.Logged

variable {α : Type}

def notConvertible (target : ScalarType) (kind : Kind) : Logged α :=
  ⟨[.notConvertible target kind], .error (.notConvertible target kind)⟩

def unreadable (target : ScalarType) (text : String) (reason : Unreadable) : Logged α :=
  ⟨[.unreadable target text], .error (.unreadable target text reason)⟩

def outOfRange (target : ScalarType) (value : List Char) : Logged α :=
  ⟨[.outOfRange target (String.ofList value)], .error (.outOfRange target (String.ofList value))⟩

@[simp]
theorem outcome_notConvertible (target : ScalarType) (kind : Kind) :
    (notConvertible target kind : Logged α).outcome = .error (.notConvertible target kind) :=
  rfl

@[simp]
theorem outcome_unreadable (target : ScalarType) (text : String) (reason : Unreadable) :
    (unreadable target text reason : Logged α).outcome = .error (.unreadable target text reason) :=
  rfl

@[simp]
theorem outcome_outOfRange (target : ScalarType) (value : List Char) :
    (outOfRange target value : Logged α).outcome =
      .error (.outOfRange target (String.ofList value)) :=
  rfl

end DotPath.Logged
