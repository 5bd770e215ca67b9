import SqlCatalog.Error

/-!
# Errors Stated by Callers

Callers may state an error of any family themselves. Families whose errors are
made from particulars take these and word the error from them; the others take
any values and repeat them.

## Main definitions

* `Error.wording`: The wording of values that are repeated.
* `ErrorKind.state`: The error of a family that is made from values.
-/

namespace SqlCatalog

namespace Error

/-- The wording of values that are repeated: a single one is written as text, several
    are quoted between parentheses. -/
def wording : List Value → String
  | [] => ""
  | [v] => v.plain
  | vs => "(" ++ ", ".intercalate (vs.map Value.shown) ++ ")"

end Error

namespace ErrorKind

/-- The error of a family that is made from values. Too few or too many of them are a
    misuse. -/
def state : ErrorKind → List Value → Outcome Error
  | .general, vs => .ok (.general (Error.wording vs))
  | .configuration, vs => .ok (.configuration (.stated (Error.wording vs)))
  | .input, vs => .ok (.input (.stated (Error.wording vs)))
  | .filter, vs => .ok (.filter (.stated (Error.wording vs)))
  | .unsupported, [feature] => .ok (.unsupported feature.plain)
  | .identifier, [name] => .ok (.identifier name "identifier")
  | .identifier, [name, kind] => .ok (.identifier name kind.plain)
  | .missingParameter, [parameter] => .ok (.missingParameter parameter.plain)
  | .rejected, [rule, reason] => .ok (.rejected rule.plain reason.plain)
  | .noConnection, [] => .ok (.noConnection "")
  | .noConnection, [notice] => .ok (.noConnection (if notice.isTruthy then notice.plain else ""))
  | .execution, [operation] => .ok (.execution operation.plain none)
  | .execution, [operation, .null] => .ok (.execution operation.plain none)
  | .execution, [operation, cause] => .ok (.execution operation.plain (some cause.plain))
  | _, _ => .error (.misuse .wrongKind)

end ErrorKind

end SqlCatalog
