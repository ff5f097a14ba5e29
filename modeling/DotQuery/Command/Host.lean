import DotQuery.Calendar.Instant

/-!
What the command asks of the system that it runs on: the contents of files, standard input, the
environment, the clock, and outputs, which are opened before anything is written to them. A world
is such a system in memory.
-/

namespace DotQuery

open Calendar

namespace Command

class Host (m : Type → Type) where
  Sink : Type
  /-- The content of a file, if there is one that can be read. -/
  readFile? (path : String) : m (Option ByteArray)
  readStandardInput? : m (Option ByteArray)
  environment? (name : String) : m (Option String)
  clock : m Moment
  /-- Whether so many threads could be started; zero leaves their number to the system. -/
  startThreads (count : Nat) : m Bool
  standardOutput : m Sink
  /-- Opens the file at a path, which is empty from then on, unless there cannot be one. -/
  create? (path : String) : m (Option Sink)
  write (sink : Sink) (text : String) : m Unit

inductive Place where
  | file (name : String)
  | standardInput
  | standardOutput
  | nowhere
deriving DecidableEq

structure World where
  /-- Where a path leads; several paths may lead to one file, which need not be there yet. -/
  place? : String → Option Place
  files : String → Option ByteArray
  isWritable : String → Bool
  /-- What has not been read yet of standard input, none if it cannot be read. -/
  standardInput : Option ByteArray
  environment : String → Option String
  /-- The moments that the clock shows whenever it is looked at. -/
  clock : Nat → Moment
  canStart : Nat → Bool
  standardOutput : String

namespace World

/-- What an action gives in the world, and the world behind it. -/
def perform {α : Type} (world : World) (action : StateM World α) : α × World :=
  Id.run (action.run world)

/-- The world with an empty file at the place, if that is a file. -/
def clear (place : Place) (world : World) : World :=
  match place with
  | .file name =>
    { world with
      files := fun other => if other = name then some .empty else world.files other }
  | _ => world

/-- Standard input is read up to its end. -/
def readStandardInput : StateM World (Option ByteArray) := do
  let world ← get
  set { world with standardInput := world.standardInput.map fun _ => .empty }
  return world.standardInput

/-- The clock goes on when it is looked at. -/
def readClock : StateM World Moment := do
  let world ← get
  set { world with clock := fun glance => world.clock (glance + 1) }
  return world.clock 0

def readPlace : Place → StateM World (Option ByteArray)
  | .file name => return (← get).files name
  | .standardInput => readStandardInput
  | .standardOutput => return none
  | .nowhere => return some .empty

def admits (world : World) : Place → Bool
  | .file name => world.isWritable name
  | .standardInput => false
  | .standardOutput | .nowhere => true

/-- Where an output at the path is written to, if it can be opened. -/
def target? (world : World) (path : String) : Option Place :=
  (world.place? path).filter world.admits

def create? (path : String) : StateM World (Option Place) := do
  match (← get).target? path with
  | some place =>
    modify (clear place)
    return some place
  | none => return none

/-- The world with the text behind what the place holds. -/
def append (place : Place) (text : String) (world : World) : World :=
  match place with
  | .file name =>
    { world with
      files := fun other =>
        if other = name then (world.files name).map (· ++ text.toByteArray) else world.files other }
  | .standardOutput => { world with standardOutput := world.standardOutput ++ text }
  | .standardInput | .nowhere => world

instance : Host (StateM World) where
  Sink := Place
  readFile? path := do
    match (← get).place? path with
    | some place => readPlace place
    | none => return none
  readStandardInput? := readStandardInput
  environment? name := return (← get).environment name
  clock := readClock
  startThreads count := return (← get).canStart count
  standardOutput := return .standardOutput
  create? := create?
  write place text := modify (append place text)

end World

end Command

end DotQuery
