import DotQuery.Query.Operator

/-!
Why a query fails. A cause is found where the evaluation stops and does not know the whole query;
the error of a query is a cause together with the text of that query, and its message quotes both.
-/

namespace DotQuery.Query

inductive Kind where
  | path
  | operator
  | equator
  | multiQuery
  | date
  | type
deriving DecidableEq

namespace Kind

def name : Kind → String
  | path => "path"
  | operator => "operator"
  | equator => "equator"
  | multiQuery => "multi query"
  | date => "date"
  | type => "type"

def title : Kind → String
  | path => "Path"
  | operator => "Operator"
  | equator => "Equator"
  | multiQuery => "Multi query"
  | date => "Date"
  | type => "Type"

end Kind

/-- In what follows `call` is a segment of the query as it is written. -/
inductive Cause where
  | noObjectPath (text : String)
  | notSequence (call : String)
  | noResult
  | keyOfSequence (key : String)
  | noObject (key : String)
  | sequenceBeforeKey (key : String)
  | noSequence (key call : String)
  | noField (key call : String)
  | broadcastNeedsSequence (path : String)
  | unbalanced (rest : String)
  | unclosedList (aggregate : Aggregate)
  | unknownOperator (call : String)
  | malformedArguments (call : String)
  | noArgument (call : String)
  | defaultNotNumber (argument call : String)
  | noEquator (expression : String)
  | itemNotNumber (item : String)
  | unknownDateUnit (call : String)
  | invalidReference (call path : String)
  | invalidDate (call : String)
  | notAllNumbers (call : String)
  | notString (call : String)
  | invalidPattern (call reason : String)
deriving DecidableEq

namespace Cause

def kind : Cause → Kind
  | noObjectPath _ | notSequence _ | noResult | keyOfSequence _ | noObject _ | sequenceBeforeKey _
  | noSequence _ _ | noField _ _ | broadcastNeedsSequence _ => .path
  | unbalanced _ | unclosedList _ | unknownOperator _ | malformedArguments _ | noArgument _
  | defaultNotNumber _ _ => .operator
  | noEquator _ => .equator
  | itemNotNumber _ => .multiQuery
  | unknownDateUnit _ | invalidReference _ _ | invalidDate _ => .date
  | notAllNumbers _ | notString _ | invalidPattern _ _ => .type

def detail : Cause → String
  | noObjectPath text => "no object path for " ++ text
  | notSequence call => call ++ " must follow a sequence"
  | noResult => "no final result"
  | keyOfSequence key =>
    key ++ " cannot be read from a sequence; follow it with an operator i.e. count(), filter()"
  | noObject key => "no object exists at " ++ key
  | sequenceBeforeKey key =>
    key ++ " should be followed by operator i.e. count(), filter() as it is an array"
  | noSequence key call => "no sequence exists at " ++ key ++ " for " ++ call
  | noField key call => "no " ++ key ++ " in parent of " ++ call
  | broadcastNeedsSequence path => "each. requires a sequence at " ++ path
  | unbalanced rest => "unbalanced brackets at '" ++ rest ++ "'"
  | unclosedList aggregate => aggregate.opening ++ " list must be closed with ])"
  | unknownOperator call => "no operator exists for " ++ call
  | malformedArguments call => "malformed argument list in " ++ call
  | noArgument call => "no value in " ++ call
  | defaultNotNumber argument call =>
    "default " ++ argument ++ " in " ++ call ++ " is not a number"
  | noEquator expression => "no equator exists for " ++ expression
  | itemNotNumber item =>
    "only numbers can be returned for multiple query statements, " ++ item ++ " is not a number"
  | unknownDateUnit call =>
    call ++ " should be followed by eligible formatter i.e. YY, MM, DD, HH"
  | invalidReference call path => "in " ++ call ++ " the reference " ++ path ++
      " is not a valid date"
  | invalidDate call => "in " ++ call ++ " the value is not a valid date"
  | notAllNumbers call => "in " ++ call ++ " the values are not all numbers"
  | notString call => "in " ++ call ++ " the value is not a string"
  | invalidPattern call reason => "in " ++ call ++ " the pattern is invalid: " ++ reason

end Cause

/-- A failed query: why, and the whole text of the query. -/
structure QueryError where
  cause : Cause
  query : String
deriving DecidableEq

namespace QueryError

def kind (e : QueryError) : Kind :=
  e.cause.kind

def message (e : QueryError) : String :=
  e.kind.title ++ " error: " ++ e.cause.detail ++ " (in " ++ e.query ++ ")"

end QueryError

end DotQuery.Query
