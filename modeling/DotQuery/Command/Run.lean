import DotQuery.Command.Host
import DotQuery.Command.Notice
import DotQuery.Command.Plan
import DotQuery.Json.Reader

/-!
Running the command, on whatever host it runs. It reads everything it needs and answers every
document, and only then opens its output: so a command that fails has written nothing. Without a
reference time each query looks at the clock for itself.
-/

namespace DotQuery

open Calendar

namespace Command

inductive Ending where
  | misused
  | told (notice : Notice)
  | failed (error : CommandError)
  | overflow
  | done (documents : Nat)
deriving DecidableEq

namespace Ending

def status : Ending → Nat
  | done _ | told _ => 0
  | failed _ => 1
  | misused => 2
  | overflow => 101

def ofResult : Except (Failure CommandError) Nat → Ending
  | .ok documents => done documents
  | .error (.error e) => failed e
  | .error .overflow => overflow

end Ending

/-! ### Answers -/

variable [Regex.Engine]

/-- The answers at one time for documents that are counted from `position`. -/
def answerAll (plan : Plan) (now : Moment) (position : Nat) :
    List Json → Except (Failure CommandError) (List Json)
  | [] => .ok []
  | document :: rest => do
    let answer ← (plan.answer ⟨document, now⟩).mapError
      (Failure.map (CommandError.failedDocument position))
    let answers ← answerAll plan now (position + 1) rest
    return answer :: answers

/-- An answer on one line, or indented where that is asked for and can be read again. -/
def answerText (format : Format) (pretty : Bool) (answer : Json) : String :=
  if pretty && format != .jsonLines then answer.pretty else answer.compact

/-! ### Steps -/

/-- A part of the command, which may stop it. -/
abbrev Step (m : Type → Type) (α : Type) :=
  ExceptT (Failure CommandError) m α

variable {m : Type → Type} [Monad m]

namespace Step

def ofExcept {α ε : Type} (describe : ε → CommandError) : Except ε α → Step m α
  | .ok a => pure a
  | .error e => throw (.error (describe e))

def ofOption {α : Type} (error : CommandError) : Option α → Step m α
  | some a => pure a
  | none => throw (.error error)

end Step

variable [Host m]

def startThreads : Option Nat → Step m Unit
  | none => pure ()
  | some count => do
    if ← Host.startThreads (m := m) count then pure () else throw (.error .unstartedThreads)

def firstFile? : List String → m (Option (String × ByteArray))
  | [] => return none
  | path :: rest => do
    match ← Host.readFile? path with
    | some content => return some (path, content)
    | none => firstFile? rest

def loadRules (path : String) : Step m RulesConfig := do
  let found ← firstFile? (m := m) (rulesPaths path)
  Step.ofOption (.unreadableRules path) <| found.bind fun (name, content) =>
    (String.fromUTF8? content).bind (readRules? name)

/-- The plan, and the reference time that is given for it: that of the arguments comes first, then
that of the environment, then that of the rules file. -/
def settle (args : Arguments) : Step m (Plan × Option String) := do
  let config ← args.rules.mapM loadRules
  let environment ← Host.environment? (m := m) referenceTimeVariable
  let plan ← Step.ofExcept id (makePlan config args.queries)
  return (plan, (args.now <|> environment) <|> config.bind RulesConfig.now)

def readInput (path : String) : Step m String := do
  let content ←
    if isStandardStream path then Host.readStandardInput? (m := m) else Host.readFile? (m := m) path
  Step.ofOption (.unreadableInput path) (content.bind String.fromUTF8?)

/-- The time that is given for ages to be measured to. -/
def referenceTime : Option String → Step m (Option Moment)
  | none => return none
  | some text => some <$> Step.ofExcept .invalidReferenceTime (readReferenceTime text)

/-! ### Answers, at the time of each query -/

/-- The time of a query: the given one, or that of the clock. -/
def queryTime (given : Option Moment) : m Moment :=
  match given with
  | some now => return now
  | none => Host.clock

/-- The members that a rule adds to those before it. -/
def addFieldAt (given : Option Moment) (document : Json) (done : List (String × Json))
    (rule : Rule) : ExceptT (Failure AnswerError) m (List (String × Json)) := do
  let now ← queryTime (m := m) given
  ExceptT.mk (pure ((RuleSet.addField ⟨document, now⟩ done rule).mapError (Failure.map .field)))

/-- The answer of a plan for one document. -/
def answerAt (plan : Plan) (given : Option Moment) (document : Json) :
    ExceptT (Failure AnswerError) m Json :=
  match plan with
  | .single query => do
    let now ← queryTime (m := m) given
    ExceptT.mk (pure ((Context.evaluate ⟨document, now⟩ query).mapError (Failure.map .query)))
  | .fields rules => do
    let members ← rules.rules.foldlM (addFieldAt given document) []
    return .obj members

/-- The answers for documents that are counted from `position`. -/
def answerEach (plan : Plan) (given : Option Moment) (position : Nat) :
    List Json → Step m (List Json)
  | [] => return []
  | document :: rest => do
    let answer ← (answerAt plan given document).adapt (Failure.map (.failedDocument position))
    let answers ← answerEach plan given (position + 1) rest
    return answer :: answers

/-! ### The command -/

/-- Everything that is to be written, in the format that it is written for. -/
def evaluate (args : Arguments) : Step m (Format × List Json) := do
  startThreads args.threads
  let format ← Step.ofExcept id (inputFormat args)
  let (plan, time) ← settle args
  let text ← readInput args.input
  let documents ← Step.ofExcept .invalidInput (Document.readAll Json.read? format text)
  let given ← referenceTime time
  return (format, ← answerEach plan given 1 documents)

def openOutput (path : String) : Step m (Host.Sink m) := do
  if isStandardStream path then Host.standardOutput (m := m)
  else Step.ofOption (.uncreatableOutput path) (← Host.create? (m := m) path)

/-- One line for each answer, or several for one that is indented. -/
def writeAnswers (sink : Host.Sink m) (format : Format) (pretty : Bool) : List Json → m Unit
  | [] => return ()
  | answer :: rest => do
    Host.write sink (answerText format pretty answer)
    Host.write sink "\n"
    writeAnswers sink format pretty rest

/-- Runs the command and counts the documents that it has answered. -/
def runWith (args : Arguments) : Step m Nat := do
  let (format, answers) ← evaluate args
  let sink ← openOutput args.output
  writeAnswers (m := m) sink format args.pretty answers
  return answers.length

/-- Prints a notice, which shows what the environment gives for a reference time. -/
def tell (notice : Notice) : m Unit := do
  let environment ← Host.environment? referenceTimeVariable
  Host.write (← Host.standardOutput) (notice.text environment)

def run (arguments : List String) : m Ending := do
  match Request.read? arguments with
  | none => return .misused
  | some (.tell notice) =>
    tell notice
    return .told notice
  | some (.answer args) => return .ofResult (← (runWith args).run)

end Command

end DotQuery
