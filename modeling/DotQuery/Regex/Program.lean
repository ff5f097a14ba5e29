import DotQuery.Regex.Pattern

/-!
Programs that search for a pattern: instructions at numbered places, which either consume a
character, test the place in the text, or go on at one or two other places, the preferred one first.
A repetition whose body can match nothing still keeps the order of preference, because each round is
followed by its own choice between another round and the end.
-/

namespace DotQuery.Regex

inductive Instruction where
  | consume (set : CharSet)
  | test (anchor : Anchor)
  | jump (target : Nat)
  | fork (preferred other : Nat)
  | accept

/-- A choice between another round at `again` and the end at `stop`. -/
def Instruction.round (greedy : Bool) (again stop : Nat) : Instruction :=
  if greedy then .fork again stop else .fork stop again

namespace Pattern

mutual

/-- The number of instructions of a pattern. -/
def size : Pattern → Nat
  | empty => 0
  | literal text => text.length
  | set _ | anchor _ => 1
  | repetition least none _ body => if least = 0 then body.size + 2 else least * body.size + 1
  | repetition least (some most) _ body =>
    least * body.size + (most - least) * (body.size + 1)
  | group _ body => body.size
  | sequence items => totalSize items
  | choice branches => totalSize branches + 2 * (branches.length - 1)

def totalSize : List Pattern → Nat
  | [] => 0
  | p :: rest => p.size + totalSize rest

end

mutual

/-- Puts the instructions of a pattern behind those of `code`. They end by going on behind the last
of them. -/
def emit : Pattern → Array Instruction → Array Instruction
  | empty, code => code
  | literal text, code => text.foldl (fun code c => code.push (.consume (.single c))) code
  | set s, code => code.push (.consume s)
  | anchor place, code => code.push (.test place)
  | group _ body, code => body.emit code
  | sequence items, code => emitSequence items code
  | choice branches, code =>
    emitBranches (code.size + totalSize branches + 2 * (branches.length - 1)) branches code
  | repetition least none greedy body, code =>
    if least = 0 then
      let start := code.size
      let stop := start + body.size + 2
      (body.emit (code.push (.round greedy (start + 1) stop))).push
        (.round greedy (start + 1) stop)
    else
      let code := Nat.repeat body.emit (least - 1) code
      let last := code.size
      let code := body.emit code
      code.push (.round greedy last (code.size + 1))
  | repetition least (some most) greedy body, code =>
    let code := Nat.repeat body.emit least code
    let stop := code.size + (most - least) * (body.size + 1)
    Nat.repeat (fun code => body.emit (code.push (.round greedy (code.size + 1) stop)))
      (most - least) code

def emitSequence : List Pattern → Array Instruction → Array Instruction
  | [], code => code
  | p :: rest, code => emitSequence rest (p.emit code)

/-- Branches that end at `stop`, each but the last behind a choice between it and the others. -/
def emitBranches (stop : Nat) : List Pattern → Array Instruction → Array Instruction
  | [], code => code
  | [p], code => p.emit code
  | p :: rest, code =>
    let start := code.size
    let code := p.emit (code.push (.fork (start + 1) (start + p.size + 2)))
    emitBranches stop rest (code.push (.jump stop))

end

def program (p : Pattern) : Array Instruction :=
  (p.emit #[]).push .accept

end Pattern

end DotQuery.Regex
