import FtyDiscovery.Base.Text

/-! How a call can end: `fty::Expected` and the exceptions the catch clauses tell apart. -/

namespace FtyDiscovery

open Base

abbrev Expected (α : Type) := Except Text α

/-- The classes of exceptions: `job::Error`, the wallet's, the bus's, any other
`std::runtime_error`, and the rest. -/
inductive Exn where
  | error (what : Text)
  | secw (what : Text)
  | bus (what : Text)
  | runtime (what : Text)
  | unknown
  deriving DecidableEq, Repr

/-- Why a call did not return: an exception left it, it went through a null pointer or took
the value of an `Expected` that holds an error, or it is still running. -/
inductive Stop where
  | thrown (exn : Exn)
  | undefined
  | running
  deriving DecidableEq, Repr

abbrev Outcome (α : Type) := Except Stop α

/-- A text as its reader sees it through `c_str()`. -/
def cString (text : Text) : Text := text.takeWhile (fun c => c != '\x00')

theorem cString_eq_self {text : Text} (free : '\x00' ∉ text) : cString text = text :=
  List.takeWhile_eq_self_iff.mpr (fun _ member => bne_iff_ne.mpr (ne_of_mem_of_not_mem member free))

/-- `throw job::Error(text)`, whose text is read back through `what()`. -/
def jobError (text : Text) : Stop := .thrown (.error (cString text))

def deref {α : Type} : Expected α → Outcome α
  | .ok value => .ok value
  | .error _ => .error .undefined

/-- `pack::Value::hasValue`: the value is not the one the field was declared with. -/
def hasValue {α : Type} [DecidableEq α] (declared value : α) : Bool := value ≠ declared

end FtyDiscovery
