import EntityGateway.OData.Options
import EntityGateway.Query.CompileError

/-!
# The operators of the remote service

For each condition operator how it is written in a filter and how many values it takes. Six
comparisons and three searches are part of the filter language; searches can be negated. All other
operators are functions of the platform, called by the name of the operator. Six operators cannot be
written at all.
-/

namespace EntityGateway.OData

/-- How a condition is written. -/
inductive ConditionForm where
  | comparison (comparison : Comparison)
  /-- A search that the position of the markers in the value decides on. -/
  | pattern (negated : Bool)
  | search (function : StringFunction) (negated : Bool)
  /-- A comparison with null. -/
  | nullCheck (negated : Bool)
  /-- A call with all values as a list. -/
  | callList
  /-- A call with one value. -/
  | callSingle
  /-- A call without values. -/
  | callNone
  /-- A call with two values. -/
  | callPair
  deriving DecidableEq, Repr

/-- How an operator is written, and how many values it takes. -/
structure OperatorForm where
  form : ConditionForm
  arity : Arity
  deriving DecidableEq, Repr

namespace OperatorForm

/-- A comparison with one value. -/
def compare (comparison : Comparison) : OperatorForm := ⟨.comparison comparison, .exactly 1⟩

/-- A search for one value. -/
def search (function : StringFunction) (negated : Bool) : OperatorForm :=
  ⟨.search function negated, .exactly 1⟩

/-- A search whose kind the value decides on. -/
def pattern (negated : Bool) : OperatorForm := ⟨.pattern negated, .exactly 1⟩

/-- A comparison with null, whatever the values are. -/
def nullCheck (negated : Bool) : OperatorForm := ⟨.nullCheck negated, .ignored⟩

/-- A call with one value. -/
def callSingle : OperatorForm := ⟨.callSingle, .exactly 1⟩

/-- A call without values, whatever the values are. -/
def callNone : OperatorForm := ⟨.callNone, .ignored⟩

/-- A call with two values. -/
def callPair : OperatorForm := ⟨.callPair, .exactly 2⟩

/-- A call with a list of values. -/
def callList (arity : Arity) : OperatorForm := ⟨.callList, arity⟩

/-- The form of an operator, unless there is none. -/
def of? : ConditionOperator → Option OperatorForm
  | .equal => some (compare .equal)
  | .notEqual => some (compare .notEqual)
  | .greaterThan => some (compare .greater)
  | .lessThan => some (compare .less)
  | .greaterEqual => some (compare .greaterOrEqual)
  | .lessEqual => some (compare .lessOrEqual)
  | .like => some (pattern false)
  | .notLike => some (pattern true)
  | .contains => some (search .contains false)
  | .doesNotContain => some (search .contains true)
  | .beginsWith => some (search .startsWith false)
  | .doesNotBeginWith => some (search .startsWith true)
  | .endsWith => some (search .endsWith false)
  | .doesNotEndWith => some (search .endsWith true)
  | .null => some (nullCheck false)
  | .notNull => some (nullCheck true)
  | .isIn | .notIn => some (callList (.atLeast 1))
  | .between | .notBetween => some (callList (.exactly 2))
  | .above | .aboveOrEqual | .under | .underOrEqual | .notUnder
  | .lastXHours | .nextXHours | .lastXDays | .nextXDays | .lastXWeeks | .nextXWeeks
  | .lastXMonths | .nextXMonths | .lastXYears | .nextXYears
  | .lastXFiscalYears | .lastXFiscalPeriods | .nextXFiscalYears | .nextXFiscalPeriods
  | .olderThanXYears | .olderThanXMonths | .olderThanXWeeks | .olderThanXDays
  | .olderThanXHours | .olderThanXMinutes
  | .onDate | .onOrBefore | .onOrAfter | .notOnDate
  | .inFiscalYear | .inFiscalPeriod => some callSingle
  | .yesterday | .today | .tomorrow | .last7Days | .next7Days
  | .lastWeek | .thisWeek | .nextWeek | .lastMonth | .thisMonth | .nextMonth
  | .lastYear | .thisYear | .nextYear
  | .thisFiscalYear | .thisFiscalPeriod | .nextFiscalYear | .nextFiscalPeriod
  | .lastFiscalYear | .lastFiscalPeriod
  | .equalUserId | .notEqualUserId | .equalUserLanguage | .equalUserTeams
  | .equalUserOrUserTeams | .equalUserOrUserHierarchy | .equalUserOrUserHierarchyAndTeams
  | .equalBusinessId | .notEqualBusinessId => some callNone
  | .inFiscalPeriodAndYear | .inOrBeforeFiscalPeriodAndYear
  | .inOrAfterFiscalPeriodAndYear => some callPair
  | .childOf | .mask | .notMask | .masksSelect | .containValues | .doesNotContainValues => none

end OperatorForm

end EntityGateway.OData
