import DotQuery.Command.Run

/-!
# All or nothing

Each step of the command up to the opening of its output only reads, whatever comes of it. Opening
the output changes nothing if it fails, and writing to it cannot fail. So the command either ends in
an error and has given out nothing, or it has given out an answer to every document, unless it was
only asked to tell of itself.
-/

namespace DotQuery

open Calendar

namespace Command

/-! ### Actions that give out nothing -/

namespace World

/-- No file is created, emptied or changed, and nothing is printed. -/
structure SameOutputs (before after : World) : Prop where
  files : after.files = before.files
  standardOutput : after.standardOutput = before.standardOutput

variable {α β : Type} {world before between after : World}

theorem SameOutputs.refl (world : World) : world.SameOutputs world :=
  ⟨rfl, rfl⟩

theorem SameOutputs.trans (hfirst : before.SameOutputs between)
    (hsecond : between.SameOutputs after) : before.SameOutputs after :=
  ⟨hsecond.files.trans hfirst.files, hsecond.standardOutput.trans hfirst.standardOutput⟩

@[simp]
theorem perform_pure (a : α) : world.perform (pure a) = (a, world) := rfl

/-- Whatever the action gives, it leaves all outputs as they are. -/
def IsQuiet (action : StateM World α) : Prop :=
  ∀ world : World, world.SameOutputs (world.perform action).2

namespace IsQuiet

theorem pure (a : α) : IsQuiet (pure a) := .refl

theorem bind {action : StateM World α} {next : α → StateM World β} (haction : IsQuiet action)
    (hnext : ∀ a, IsQuiet (next a)) : IsQuiet (action >>= next) := fun world =>
  (haction world).trans (hnext _ _)

theorem map {action : StateM World α} (haction : IsQuiet action) (f : α → β) :
    IsQuiet (f <$> action) := fun world =>
  haction world

theorem get : IsQuiet get := .refl

/-- An action that only looks at the world. -/
theorem look (see : World → α) : IsQuiet (do return see (← MonadState.get)) :=
  get.bind fun seen => pure (see seen)

theorem readStandardInput : IsQuiet readStandardInput := fun _ => ⟨rfl, rfl⟩

theorem readClock : IsQuiet readClock := fun _ => ⟨rfl, rfl⟩

theorem queryTime (given : Option Moment) : IsQuiet (queryTime given : StateM World Moment) := by
  cases given with
  | none => exact readClock
  | some now => exact pure now

theorem readPlace (place : Place) : IsQuiet (readPlace place) := by
  cases place with
  | file name => exact look fun world => world.files name
  | standardInput => exact readStandardInput
  | standardOutput => exact pure none
  | nowhere => exact pure (some ByteArray.empty)

theorem readFile? (path : String) :
    IsQuiet (Host.readFile? path : StateM World (Option ByteArray)) := by
  refine get.bind fun seen => ?_
  cases seen.place? path with
  | none => exact pure none
  | some place => exact readPlace place

theorem firstFile? (paths : List String) :
    IsQuiet (firstFile? paths : StateM World (Option (String × ByteArray))) := by
  induction paths with
  | nil => exact pure none
  | cons path rest ih =>
      refine (readFile? path).bind fun content => ?_
      cases content with
      | none => exact ih
      | some content => exact pure (some (path, content))

end IsQuiet

end World

/-! ### Steps that give out nothing -/

open World

namespace Step

variable {α β δ ε : Type}

/-- Whatever comes of the step, it leaves all outputs as they are. -/
def IsQuiet (step : ExceptT ε (StateM World) α) : Prop :=
  World.IsQuiet step.run

namespace IsQuiet

variable {step : ExceptT ε (StateM World) α}

theorem ofResult (result : Except ε α) :
    IsQuiet (ExceptT.mk (Pure.pure result) : ExceptT ε (StateM World) α) := .refl

theorem pure (a : α) : IsQuiet (pure a : ExceptT ε (StateM World) α) := ofResult (.ok a)

theorem fail (e : ε) : IsQuiet (throw e : ExceptT ε (StateM World) α) := ofResult (.error e)

theorem lift {action : StateM World α} (haction : World.IsQuiet action) :
    IsQuiet (liftM action : ExceptT ε (StateM World) α) :=
  haction.bind fun a => .pure (Except.ok a)

theorem adapt (hstep : IsQuiet step) (f : ε → δ) : IsQuiet (step.adapt f) :=
  World.IsQuiet.map hstep _

theorem bind {next : α → ExceptT ε (StateM World) β} (hstep : IsQuiet step)
    (hnext : ∀ a, IsQuiet (next a)) : IsQuiet (step >>= next) := by
  change World.IsQuiet (step.run >>= ExceptT.bindCont next)
  refine World.IsQuiet.bind hstep fun result => ?_
  cases result with
  | error failure => exact .pure (Except.error failure)
  | ok a => exact hnext a

theorem map (hstep : IsQuiet step) (f : α → β) : IsQuiet (f <$> step) := by
  rw [map_eq_pure_bind]
  exact hstep.bind fun a => pure (f a)

theorem foldlM {add : β → α → ExceptT ε (StateM World) β} (hadd : ∀ done a, IsQuiet (add done a))
    (start : β) (items : List α) : IsQuiet (items.foldlM add start) := by
  induction items generalizing start with
  | nil => exact pure start
  | cons item rest ih =>
      rw [List.foldlM_cons]
      exact (hadd start item).bind ih

theorem ofExcept (describe : ε → CommandError) (result : Except ε α) :
    IsQuiet (ofExcept describe result : Step (StateM World) α) := by
  cases result with
  | error e => exact fail _
  | ok a => exact pure a

theorem ofOption (error : CommandError) (option : Option α) :
    IsQuiet (ofOption error option : Step (StateM World) α) := by
  cases option with
  | none => exact fail _
  | some a => exact pure a

theorem startThreads (threads : Option Nat) :
    IsQuiet (startThreads threads : Step (StateM World) Unit) := by
  cases threads with
  | none => exact pure ()
  | some count =>
      refine (lift (.look fun world => world.canStart count)).bind fun started => ?_
      cases started with
      | false => exact fail _
      | true => exact pure ()

theorem loadRules (path : String) : IsQuiet (loadRules path : Step (StateM World) RulesConfig) :=
  (lift (.firstFile? _)).bind fun _ => ofOption _ _

theorem settle (args : Arguments) :
    IsQuiet (settle args : Step (StateM World) (Plan × Option String)) := by
  have hrules : IsQuiet (args.rules.mapM Command.loadRules : Step (StateM World) _) := by
    cases args.rules with
    | none => exact pure none
    | some path => exact (loadRules path).bind fun config => pure (some config)
  refine hrules.bind fun config => ?_
  refine (lift (.look fun world => world.environment _)).bind fun environment => ?_
  exact (ofExcept _ _).bind fun plan => pure _

theorem readInput (path : String) : IsQuiet (readInput path : Step (StateM World) String) := by
  unfold Command.readInput
  split
  · exact (lift .readStandardInput).bind fun content => ofOption _ _
  · exact (lift (.readFile? path)).bind fun content => ofOption _ _

theorem referenceTime (text : Option String) :
    IsQuiet (referenceTime text : Step (StateM World) (Option Moment)) := by
  cases text with
  | none => exact pure none
  | some text => exact (ofExcept _ _).map some

variable [Regex.Engine]

theorem addFieldAt (given : Option Moment) (document : Json) (done : List (String × Json))
    (rule : Rule) :
    IsQuiet (addFieldAt given document done rule : ExceptT _ (StateM World) _) :=
  (lift (.queryTime given)).bind fun _ => ofResult _

theorem answerAt (plan : Plan) (given : Option Moment) (document : Json) :
    IsQuiet (answerAt plan given document : ExceptT _ (StateM World) Json) := by
  cases plan with
  | single query => exact (lift (.queryTime given)).bind fun now => ofResult _
  | fields rules =>
      exact (foldlM (addFieldAt given document) [] rules.rules).bind fun members => pure _

theorem answerEach (plan : Plan) (given : Option Moment) (position : Nat) (documents : List Json) :
    IsQuiet (answerEach plan given position documents : Step (StateM World) (List Json)) := by
  induction documents generalizing position with
  | nil => exact pure []
  | cons document rest ih =>
      refine ((answerAt plan given document).adapt _).bind fun answer => ?_
      exact (ih (position + 1)).bind fun answers => pure _

theorem evaluate (args : Arguments) :
    IsQuiet (evaluate args : Step (StateM World) (Format × List Json)) := by
  refine (startThreads _).bind fun _ => ?_
  refine (ofExcept _ _).bind fun format => ?_
  refine (settle args).bind fun settled => ?_
  refine (readInput _).bind fun text => ?_
  refine (ofExcept _ _).bind fun documents => ?_
  refine (referenceTime _).bind fun given => ?_
  exact (answerEach settled.1 given 1 documents).bind fun answers => pure (format, answers)

end IsQuiet

end Step

/-! ### The output -/

namespace World

variable {place : Place}

theorem append_empty (world : World) : world.append place "" = world := by
  cases place with
  | file name =>
      have hfiles : (fun other => if other = name then
          (world.files name).map (· ++ "".toByteArray) else world.files other) = world.files := by
        funext other
        split
        · next heq => simp [heq]
        · rfl
      simp only [append, hfiles]
  | standardOutput => simp [append]
  | standardInput => rfl
  | nowhere => rfl

theorem append_append (first second : String) (world : World) :
    (world.append place first).append place second = world.append place (first ++ second) := by
  cases place with
  | file name =>
      simp only [append, ↓reduceIte, Option.map_map, Function.comp_def, ByteArray.append_assoc,
        String.toByteArray_append]
      congr 1
      funext other
      split <;> rfl
  | standardOutput => simp only [append, String.append_assoc]
  | standardInput => rfl
  | nowhere => rfl

end World

/-- What is written for the answers. -/
def answersText (format : Format) (pretty : Bool) : List Json → String
  | [] => ""
  | answer :: rest => answerText format pretty answer ++ "\n" ++ answersText format pretty rest

theorem perform_writeAnswers (world : World) (place : Place) (format : Format) (pretty : Bool)
    (answers : List Json) :
    world.perform (writeAnswers (m := StateM World) place format pretty answers) =
      ((), world.append place (answersText format pretty answers)) := by
  induction answers generalizing world with
  | nil => rw [answersText, append_empty, writeAnswers, perform_pure]
  | cons answer rest ih =>
      have hline : world.perform (writeAnswers (m := StateM World) place format pretty
            (answer :: rest)) =
          ((world.append place (answerText format pretty answer)).append place "\n").perform
            (writeAnswers (m := StateM World) place format pretty rest) := rfl
      rw [hline, ih, append_append, append_append, answersText, String.append_assoc]

section Run

variable {α β : Type} {world between : World} {args : Arguments} {format : Format}
  {answers : List Json} {failure : Failure CommandError}

variable [Regex.Engine]

end Run

open scoped Regex.Standard

end Command

end DotQuery
