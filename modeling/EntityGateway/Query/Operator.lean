/-!
# Condition operators

Every operator that a condition may carry. The set is that of the platform the queries come from;
each store supports a part of it and rejects the rest. An operator has one name, by which it is
written in queries, in messages, and in the functions of the remote service.
-/

namespace EntityGateway

/-- How a condition compares an attribute with its values. -/
inductive ConditionOperator where
  | equal
  | notEqual
  | greaterThan
  | lessThan
  | greaterEqual
  | lessEqual
  | like
  | notLike
  | isIn
  | notIn
  | between
  | notBetween
  | null
  | notNull
  | yesterday
  | today
  | tomorrow
  | last7Days
  | next7Days
  | lastWeek
  | thisWeek
  | nextWeek
  | lastMonth
  | thisMonth
  | nextMonth
  | onDate
  | onOrBefore
  | onOrAfter
  | lastYear
  | thisYear
  | nextYear
  | lastXHours
  | nextXHours
  | lastXDays
  | nextXDays
  | lastXWeeks
  | nextXWeeks
  | lastXMonths
  | nextXMonths
  | lastXYears
  | nextXYears
  | equalUserId
  | notEqualUserId
  | equalBusinessId
  | notEqualBusinessId
  | childOf
  | mask
  | notMask
  | masksSelect
  | contains
  | doesNotContain
  | equalUserLanguage
  | notOnDate
  | olderThanXMonths
  | beginsWith
  | doesNotBeginWith
  | endsWith
  | doesNotEndWith
  | thisFiscalYear
  | thisFiscalPeriod
  | nextFiscalYear
  | nextFiscalPeriod
  | lastFiscalYear
  | lastFiscalPeriod
  | lastXFiscalYears
  | lastXFiscalPeriods
  | nextXFiscalYears
  | nextXFiscalPeriods
  | inFiscalYear
  | inFiscalPeriod
  | inFiscalPeriodAndYear
  | inOrBeforeFiscalPeriodAndYear
  | inOrAfterFiscalPeriodAndYear
  | equalUserTeams
  | equalUserOrUserTeams
  | under
  | notUnder
  | underOrEqual
  | above
  | aboveOrEqual
  | equalUserOrUserHierarchy
  | equalUserOrUserHierarchyAndTeams
  | olderThanXYears
  | olderThanXWeeks
  | olderThanXDays
  | olderThanXHours
  | olderThanXMinutes
  | containValues
  | doesNotContainValues
  deriving DecidableEq, Repr

namespace ConditionOperator

/-- The name of an operator. -/
def name : ConditionOperator → String
  | equal => "Equal"
  | notEqual => "NotEqual"
  | greaterThan => "GreaterThan"
  | lessThan => "LessThan"
  | greaterEqual => "GreaterEqual"
  | lessEqual => "LessEqual"
  | like => "Like"
  | notLike => "NotLike"
  | isIn => "In"
  | notIn => "NotIn"
  | between => "Between"
  | notBetween => "NotBetween"
  | null => "Null"
  | notNull => "NotNull"
  | yesterday => "Yesterday"
  | today => "Today"
  | tomorrow => "Tomorrow"
  | last7Days => "Last7Days"
  | next7Days => "Next7Days"
  | lastWeek => "LastWeek"
  | thisWeek => "ThisWeek"
  | nextWeek => "NextWeek"
  | lastMonth => "LastMonth"
  | thisMonth => "ThisMonth"
  | nextMonth => "NextMonth"
  | onDate => "On"
  | onOrBefore => "OnOrBefore"
  | onOrAfter => "OnOrAfter"
  | lastYear => "LastYear"
  | thisYear => "ThisYear"
  | nextYear => "NextYear"
  | lastXHours => "LastXHours"
  | nextXHours => "NextXHours"
  | lastXDays => "LastXDays"
  | nextXDays => "NextXDays"
  | lastXWeeks => "LastXWeeks"
  | nextXWeeks => "NextXWeeks"
  | lastXMonths => "LastXMonths"
  | nextXMonths => "NextXMonths"
  | lastXYears => "LastXYears"
  | nextXYears => "NextXYears"
  | equalUserId => "EqualUserId"
  | notEqualUserId => "NotEqualUserId"
  | equalBusinessId => "EqualBusinessId"
  | notEqualBusinessId => "NotEqualBusinessId"
  | childOf => "ChildOf"
  | mask => "Mask"
  | notMask => "NotMask"
  | masksSelect => "MasksSelect"
  | contains => "Contains"
  | doesNotContain => "DoesNotContain"
  | equalUserLanguage => "EqualUserLanguage"
  | notOnDate => "NotOn"
  | olderThanXMonths => "OlderThanXMonths"
  | beginsWith => "BeginsWith"
  | doesNotBeginWith => "DoesNotBeginWith"
  | endsWith => "EndsWith"
  | doesNotEndWith => "DoesNotEndWith"
  | thisFiscalYear => "ThisFiscalYear"
  | thisFiscalPeriod => "ThisFiscalPeriod"
  | nextFiscalYear => "NextFiscalYear"
  | nextFiscalPeriod => "NextFiscalPeriod"
  | lastFiscalYear => "LastFiscalYear"
  | lastFiscalPeriod => "LastFiscalPeriod"
  | lastXFiscalYears => "LastXFiscalYears"
  | lastXFiscalPeriods => "LastXFiscalPeriods"
  | nextXFiscalYears => "NextXFiscalYears"
  | nextXFiscalPeriods => "NextXFiscalPeriods"
  | inFiscalYear => "InFiscalYear"
  | inFiscalPeriod => "InFiscalPeriod"
  | inFiscalPeriodAndYear => "InFiscalPeriodAndYear"
  | inOrBeforeFiscalPeriodAndYear => "InOrBeforeFiscalPeriodAndYear"
  | inOrAfterFiscalPeriodAndYear => "InOrAfterFiscalPeriodAndYear"
  | equalUserTeams => "EqualUserTeams"
  | equalUserOrUserTeams => "EqualUserOrUserTeams"
  | under => "Under"
  | notUnder => "NotUnder"
  | underOrEqual => "UnderOrEqual"
  | above => "Above"
  | aboveOrEqual => "AboveOrEqual"
  | equalUserOrUserHierarchy => "EqualUserOrUserHierarchy"
  | equalUserOrUserHierarchyAndTeams => "EqualUserOrUserHierarchyAndTeams"
  | olderThanXYears => "OlderThanXYears"
  | olderThanXWeeks => "OlderThanXWeeks"
  | olderThanXDays => "OlderThanXDays"
  | olderThanXHours => "OlderThanXHours"
  | olderThanXMinutes => "OlderThanXMinutes"
  | containValues => "ContainValues"
  | doesNotContainValues => "DoesNotContainValues"

/-- All operators, in their customary order. -/
def all : List ConditionOperator := [
  .equal, .notEqual, .greaterThan, .lessThan, .greaterEqual, .lessEqual, .like, .notLike, .isIn,
  .notIn, .between, .notBetween, .null, .notNull, .yesterday, .today, .tomorrow, .last7Days,
  .next7Days, .lastWeek, .thisWeek, .nextWeek, .lastMonth, .thisMonth, .nextMonth, .onDate,
  .onOrBefore, .onOrAfter, .lastYear, .thisYear, .nextYear, .lastXHours, .nextXHours, .lastXDays,
  .nextXDays, .lastXWeeks, .nextXWeeks, .lastXMonths, .nextXMonths, .lastXYears, .nextXYears,
  .equalUserId, .notEqualUserId, .equalBusinessId, .notEqualBusinessId, .childOf, .mask, .notMask,
  .masksSelect, .contains, .doesNotContain, .equalUserLanguage, .notOnDate, .olderThanXMonths,
  .beginsWith, .doesNotBeginWith, .endsWith, .doesNotEndWith, .thisFiscalYear, .thisFiscalPeriod,
  .nextFiscalYear, .nextFiscalPeriod, .lastFiscalYear, .lastFiscalPeriod, .lastXFiscalYears,
  .lastXFiscalPeriods, .nextXFiscalYears, .nextXFiscalPeriods, .inFiscalYear, .inFiscalPeriod,
  .inFiscalPeriodAndYear, .inOrBeforeFiscalPeriodAndYear, .inOrAfterFiscalPeriodAndYear,
  .equalUserTeams, .equalUserOrUserTeams, .under, .notUnder, .underOrEqual, .above, .aboveOrEqual,
  .equalUserOrUserHierarchy, .equalUserOrUserHierarchyAndTeams, .olderThanXYears, .olderThanXWeeks,
  .olderThanXDays, .olderThanXHours, .olderThanXMinutes, .containValues, .doesNotContainValues]

/-- The operator of a name. -/
def ofName? (s : String) : Option ConditionOperator :=
  all.find? fun operator => operator.name = s

/-- No operator is missing from the list of all. -/
theorem mem_all (operator : ConditionOperator) : operator ∈ all := by
  cases operator <;> decide

end ConditionOperator

end EntityGateway
