import Componentry.Script.Grammar.Basic

/-!
# Assignment targets

A list or record on the left of an assignment is read as an expression first and is then found to be
a pattern. `asTarget` checks that what was read can be assigned to. A plain target is a name or a
member, which is all that `++` and `--` take.
-/

namespace Componentry.Script

open Read

/-- Checks that a term is a name or a member, possibly in parentheses. The first argument bounds the
nesting. -/
def asPlainTarget : Nat → Term → Read Unit
  | 0, _ => return
  | depth + 1, term =>
    match term.value with
    | .name _ | .member => return
    | .group inner => match inner.value with
      | .list _ _ | .record _ _ => stop .invalidTarget term.start
      | _ => asPlainTarget depth inner
    | _ => stop .invalidTarget term.start

/-- Takes a name with a default off the list of faults: it turned out to be part of a target. -/
def settle (start : Nat) : Read Unit :=
  modify fun r => { r with pending := r.pending.erase start }

/-- Checks that a term can be assigned to. An entry that is itself an assignment is a target with a
default, and its own target has been checked. What follows `...` in a record must not be a pattern.
The first argument bounds the nesting. -/
def asTarget : Nat → Term → Read Unit
  | 0, _ => return
  | depth + 1, term =>
    let withDefault (part : Term) : Read Unit :=
      match part.value with
      | .assignment => return
      | _ => asTarget depth part
    let entries (parts : List (Entry Term)) (trailing : Option Nat) (inRecord : Bool) : Read Unit :=
      parts.zipIdx.forM fun (part, index) =>
        match part with
        | .hole | .shorthand => return
        | .item value => withDefault value
        | .spread value start => do
          if index + 1 = parts.length then
            match inRecord, value.value with
            | true, .list _ _ | true, .record _ _ => stop .spreadTarget value.start
            | _, _ => asTarget depth value
            if let some comma := trailing then report .commaAfterRest comma
          else stop .spreadNotLast start
        | .initialized start => settle start
        | .method parameters => stop .invalidTarget parameters
    match term.value with
    | .list parts trailing => entries parts trailing false
    | .record parts trailing => entries parts trailing true
    | _ => asPlainTarget (depth + 1) term

/-- Checks the left side of an assignment. -/
def checkTarget (term : Term) : Read Unit := do
  asTarget ((← get).source.length + 1) term

/-- Checks the operand of `++` or `--`. -/
def checkPlainTarget (term : Term) : Read Unit := do
  asPlainTarget ((← get).source.length + 1) term

end Componentry.Script
