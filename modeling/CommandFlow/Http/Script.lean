import CommandFlow.Condition
import CommandFlow.Http.Message

/-!
# Scripted answers to requests

* `Rule` : which requests a rule answers, how often, and how;
* `Script.answer` : the answer of the first rule that fits. A request that no rule fits is answered with
  an empty list.
-/

namespace CommandFlow.Http

structure Rule where
  /-- What the address has to contain. -/
  part : String := ""
  /-- The method, or any. -/
  method : Option String := none
  /-- How often the rule may still answer, or any number of times. -/
  times : Option Nat := none
  /-- The name and the text of the failure with which the rule answers, if it does not respond. -/
  failure : Option (String × String) := none
  response : Response := {}

namespace Rule

def fits (rule : Rule) (request : Request) : Bool :=
  rule.times != some 0 && (rule.method.isNone || rule.method == some request.method) &&
    Operator.occursIn rule.part.toList request.address.text.toList

def answer (rule : Rule) : Except Fault Response :=
  match rule.failure with
  | some (name, text) => .error (.transport name text)
  | none => .ok rule.response

def used (rule : Rule) : Rule := { rule with times := rule.times.map (· - 1) }

end Rule

/-- The rules of a script, of which the first that fits counts. -/
abbrev Script := List Rule

def noRule : Response := { body := .json (.list []) }

def Script.answer (request : Request) : Script → Except Fault Response × Script
  | [] => (.ok noRule, [])
  | rule :: rest =>
    if rule.fits request then (rule.answer, rule.used :: rest)
    else
      let (answer, rest) := Script.answer request rest
      (answer, rule :: rest)

end CommandFlow.Http
