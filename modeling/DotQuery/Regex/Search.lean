import DotQuery.Regex.Parser
import DotQuery.Regex.Program

/-!
Searching a text for a pattern. All ways to match are followed at once, in order of preference: an
earlier start before a later one, then as the program prefers. The first match that no preferred way
can still replace is the answer. Two ways that have reached the same place go on as the preferred
one, so the work at each character is bounded by the size of the program.
-/

namespace DotQuery.Regex

/-- A way to match that has reached `place` in the program and started at `start` in the text. -/
structure Thread where
  place : Nat
  start : Nat

/-- The places still to be reached without a character, the places seen, and those found that
consume or accept, the latest first. -/
def follow (code : Array Instruction) (before after : Option Char) :
    Nat → List Thread → Array Bool → List Thread → Array Bool × List Thread
  | 0, _, seen, found => (seen, found)
  | _, [], seen, found => (seen, found)
  | fuel + 1, thread :: rest, seen, found =>
    if seen.getD thread.place true then follow code before after fuel rest seen found
    else
      let seen := seen.setIfInBounds thread.place true
      let goOn (places : List Nat) :=
        follow code before after fuel (places.map (⟨·, thread.start⟩) ++ rest) seen found
      match code[thread.place]? with
      | some (.jump target) => goOn [target]
      | some (.fork preferred other) => goOn [preferred, other]
      | some (.test anchor) => goOn (if anchor.holds before after then [thread.place + 1] else [])
      | _ => follow code before after fuel rest seen (thread :: found)

/-- The threads that consume or accept, in order of preference. -/
def reach (code : Array Instruction) (before after : Option Char) (threads : List Thread) :
    List Thread :=
  let fuel := threads.length + 3 * code.size + 1
  (follow code before after fuel threads (Array.replicate code.size false) []).2.reverse

/-- The threads that go on behind the next character, up to one that accepts here. -/
def step (code : Array Instruction) (after : Option Char) :
    List Thread → List Thread × Option Thread
  | [] => ([], none)
  | thread :: rest =>
    match code[thread.place]? with
    | some .accept => ([], some thread)
    | some (.consume set) =>
      let (threads, accepted) := step code after rest
      if after.any set.contains then (⟨thread.place + 1, thread.start⟩ :: threads, accepted)
      else (threads, accepted)
    | _ => step code after rest

/-- Bounds of a match: where it starts, and where it ends. -/
structure Match where
  start : Nat
  stop : Nat

/-- The threads to follow at a place: a new one starts there while no match is known. -/
def withStart (place : Nat) (threads : List Thread) (best : Option Match) : List Thread :=
  if best.isNone then threads ++ [⟨0, place⟩] else threads

def improve (place : Nat) (accepted : Option Thread) (best : Option Match) : Option Match :=
  match accepted with
  | some thread => some ⟨thread.start, place⟩
  | none => best

/-- The preferred match in a text, of which the part from `place` on is left to read. -/
def searchFrom (code : Array Instruction) (place : Nat) (before : Option Char)
    (threads : List Thread) (best : Option Match) : List Char → Option Match
  | [] =>
    let (_, accepted) := step code none (reach code before none (withStart place threads best))
    improve place accepted best
  | c :: rest =>
    let reached := reach code before (some c) (withStart place threads best)
    let (threads, accepted) := step code (some c) reached
    let best := improve place accepted best
    if threads.isEmpty && best.isSome then best
    else searchFrom code (place + 1) (some c) threads best rest

/-- The first match of a pattern in `text`, if there is one. -/
def find? (pattern text : List Char) : Except Malformation (Option (List Char)) := do
  let pattern ← parse pattern
  let found := searchFrom pattern.program 0 none [] none text
  return found.map fun m => (text.drop m.start).take (m.stop - m.start)

end DotQuery.Regex
