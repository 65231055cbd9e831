import NavGraph.Assoc
import NavGraph.Host.Message

/-!
# Scripted hosts

A host that answers by a script: lists of answers for certain requests, and a queue for all
others.

## Main definitions

* `Script` - the script
* `Script.next` - one answer and what is left of the script
* `Script.host` - the host that follows a script
-/

namespace NavGraph

/-- Answers for certain requests, and answers for all others. -/
structure Script where
  table : List (String × List Answer)
  queue : List Answer

namespace Script

/-- The answer when a script has nothing to say: there is no such thing. -/
def nothing : Answer := .response { status := 404, headers := [], body := [] }

/-- The answer to a request and the rest of the script.  The last answer in the list of a request
stays and repeats; the queue runs out. -/
def next (s : Script) (r : Request) : Answer × Script :=
  match s.table.lookup r.key with
  | some (a :: b :: rest) => (a, { s with table := Assoc.put r.key (b :: rest) s.table })
  | some [a] => (a, s)
  | _ =>
      match s.queue with
      | [] => (nothing, s)
      | a :: rest => (a, { s with queue := rest })

/-- What is left of a script after some requests. -/
def after (s : Script) (requests : List Request) : Script :=
  requests.foldl (fun s r => (s.next r).2) s

/-- The host that follows a script. -/
def host (s : Script) : Host := fun before r => ((s.after before).next r).1

end Script

end NavGraph
