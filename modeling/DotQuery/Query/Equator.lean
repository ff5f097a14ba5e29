import DotQuery.Query.Cause
import DotQuery.Text.Cut

/-!
The comparison in a filter: a key, a comparator and an operand without quotes.
-/

namespace DotQuery.Query

structure Equator where
  key : String
  comparator : Comparator
  operand : String
deriving DecidableEq

def isQuote (c : Char) : Bool :=
  c == '"' || c == '\''

/-- The text without its single and double quotes. -/
def stripQuotes (text : List Char) : List Char :=
  text.filter fun c => !isQuote c

theorem stripQuotes_eq_filter (text : List Char) :
    stripQuotes text = text.filter fun c => c != '"' && c != '\'' := by
  rw [stripQuotes]
  congr 1
  funext c
  rw [isQuote, Bool.not_or]
  rfl

/-- The comparator of an expression: the first in precedence whose symbol occurs anywhere. -/
def comparator? (expression : List Char) : Option Comparator :=
  Comparator.precedence.find? fun comparator => Text.contains comparator.symbol expression

/-- The key ends at the first symbol of the comparator, and the operand at the next one. -/
def parseEquator (expression : String) : Except Cause Equator :=
  let text := expression.toList
  match comparator? text with
  | none => .error (.noEquator expression)
  | some comparator =>
    match Text.cut? comparator.symbol text with
    | none => .error (.noEquator expression)
    | some (key, rest) =>
      let operand :=
        match Text.cut? comparator.symbol rest with
        | some (operand, _) => operand
        | none => rest
      .ok ⟨String.ofList key, comparator, String.ofList (stripQuotes operand)⟩

end DotQuery.Query
