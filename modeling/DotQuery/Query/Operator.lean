/-!
The closed sets of names that queries are made with: operators, aggregates of a list of queries, and
the comparators of a filter.
-/

namespace DotQuery.Query

inductive Operator where
  | count
  | map
  | filter
  | sum
  | mean
  | min
  | max
  | range
  | unique
  | exists
  | default
  | age
  | date
  | regex
deriving DecidableEq

namespace Operator

def all : List Operator :=
  [count, map, filter, sum, mean, min, max, range, unique, «exists», default, age, date, regex]

def name : Operator → String
  | count => "count"
  | map => "map"
  | filter => "filter"
  | sum => "sum"
  | mean => "mean"
  | min => "min"
  | max => "max"
  | range => "range"
  | unique => "unique"
  | «exists» => "exists"
  | default => "default"
  | age => "age"
  | date => "date"
  | regex => "regex"

def ofName? (name : String) : Option Operator :=
  all.find? fun operator => operator.name == name

/-- A blank argument asks for the usual behaviour. -/
def argumentOptional : Operator → Bool
  | count | min | max | mean | range | «exists» => true
  | _ => false

/-- The operator also answers for an absent value or one that is no sequence. -/
def toleratesAbsent : Operator → Bool
  | «exists» | default | age | date | regex => true
  | _ => false

end Operator

inductive Aggregate where
  | max
  | min
  | range
deriving DecidableEq

namespace Aggregate

def all : List Aggregate :=
  [max, min, range]

/-- The text that opens a list of queries to be combined. -/
def opening : Aggregate → String
  | max => "max(["
  | min => "min(["
  | range => "range(["

end Aggregate

inductive Comparator where
  | eq
  | ne
  | gt
  | ge
  | lt
  | le
deriving DecidableEq

namespace Comparator

/-- The order in which a filter is searched for a symbol: those of two characters come before the
single characters that they contain. -/
def precedence : List Comparator :=
  [ne, ge, le, gt, lt, eq]

def symbol : Comparator → List Char
  | eq => ['=']
  | ne => ['!', '=']
  | gt => ['>']
  | ge => ['>', '=']
  | lt => ['<']
  | le => ['<', '=']

/-- Whether an element stands in the relation to the operand, given how they compare; what does not
compare is only unequal. -/
def accepts : Comparator → Option Ordering → Bool
  | ne, none => true
  | _, none => false
  | eq, some order => order == .eq
  | ne, some order => order != .eq
  | gt, some order => order == .gt
  | ge, some order => order != .lt
  | lt, some order => order == .lt
  | le, some order => order != .gt

end Comparator

end DotQuery.Query
