import SalesDesk.Value.Basic

/-! Why a request cannot be answered, each cause with its wording. -/
namespace SalesDesk

inductive RowProblem where
  | notAnObject (found : Value)
  | missingFields (names : List String)
  | booleanNumber (field : String)
  | notANumber (field : String) (found : Value)
  | notADate (found : Value)
  | missingDate

namespace RowProblem

def message : RowProblem → String
  | notAnObject found => "expected a mapping, got " ++ found.kindName
  | missingFields names => "missing required field(s): " ++ String.intercalate ", " names
  | booleanNumber field => field ++ " must be numeric, got a boolean"
  | notANumber field found => field ++ " is not a number: " ++ found.quoted
  | notADate found => "transaction_date is not a date: " ++ found.quoted
  | missingDate => "transaction_date is missing"

end RowProblem

inductive Fault where
  /-- A raw row breaks the rules for records. -/
  | badRow (index : Nat) (problem : RowProblem)
  /-- The rows are a single value. -/
  | rowsNotAList (found : Value)
  /-- The metrics are not an object. -/
  | metricsNotAnObject (found : Value)
  /-- A metric is of a kind that holds no number. -/
  | notNumeric (found : Value)
  /-- A text that should hold a number holds none. -/
  | notANumber (s : String)
  /-- A text that should hold an integer holds none. -/
  | notAnInteger (s : String)
  /-- A text holds more digits than an integer may have, or, where their number is not told, an
  integer is too long to be written. -/
  | tooManyDigits (digits : Option Nat)
  /-- An integer is too large for a double. -/
  | tooLarge
  /-- The double is no number, or infinite, where an integer is asked for. -/
  | noInteger (infinite : Bool)
  /-- A setting from the environment is not an integer. -/
  | badSetting (name found : String)
  /-- Digits can be grouped the Indian or the western way only. -/
  | badGrouping (found : String)
  /-- A figure cannot have so many places. -/
  | badPlaces (places : Int)
  /-- There is no key for the assistant. -/
  | noKey
  /-- A list of dates stands where one date should. -/
  | dateList (single : Bool)
  /-- A date lies before the year 1. -/
  | beyondCalendar
  /-- A list of conditions has not one for each record. -/
  | conditionCount (conditions records : Nat)
  /-- A list stands where a divisor should. -/
  | listDivisor
  /-- A filter names a field that records do not have. -/
  | unknownFilterField (name : String)
  /-- A table or total is asked for by a name that does not exist. -/
  | unknownColumn (name : String)
  | unknownMonth (name : String)
  /-- A list or an object cannot be told apart from others, so it cannot be counted. -/
  | uncountable (kind : String)
  /-- A count is beyond the integers a machine word holds. -/
  | countTooLarge
  /-- The ledger is empty, so it has no first and last day. -/
  | noDates
  /-- A comparison needs two periods. -/
  | tooFewPeriods (found : Nat)
  /-- The question names no period. -/
  | noPeriod
  /-- A message is neither a text nor empty. -/
  | notAMessage (found : Value)
  /-- A message of the history lacks a part. -/
  | incompleteMessage (part : String)
  /-- The size of a figure that is written as a text cannot be taken. -/
  | notAnAmount (found : Value)
  /-- The rows of a list have no columns. -/
  | noColumns

namespace Fault

def message : Fault → String
  | badRow index problem => "Record " ++ toString index ++ ": " ++ problem.message
  | rowsNotAList found => "the rows are not a list: " ++ found.quoted
  | metricsNotAnObject found => "the metrics are not an object: " ++ found.quoted
  | notNumeric found => "not a number: " ++ found.quoted
  | notANumber s => "not a number: " ++ Text.quoted s
  | notAnInteger s => "not an integer: " ++ Text.quoted s
  | tooManyDigits digits =>
    "Exceeds the limit (4300 digits) for integer string conversion" ++
      (digits.map fun n => ": value has " ++ toString n ++ " digits").getD "" ++
      "; use sys.set_int_max_str_digits() to increase the limit"
  | tooLarge => "int too large to convert to float"
  | noInteger infinite => if infinite then "infinity is no integer" else "NaN is no integer"
  | badSetting name found => name ++ " must be an integer, got " ++ Text.quoted found
  | badGrouping found => "Unsupported digit grouping: " ++ found
  | badPlaces places => "a figure cannot have " ++ toString places ++ " places"
  | noKey =>
    "ANTHROPIC_API_KEY environment variable not set. " ++
      "Get your key at https://console.anthropic.com/settings/keys"
  | dateList single => if single then "one date in a list" else "a list of dates"
  | beyondCalendar => "a date before the year 1"
  | conditionCount conditions records =>
    toString conditions ++ " conditions for " ++ toString records ++ " records"
  | listDivisor => "a list is no divisor"
  | unknownFilterField name => "Unknown filter field: " ++ name
  | unknownColumn name => "unknown column: " ++ name
  | unknownMonth name => "unknown month: " ++ name
  | uncountable kind => "unhashable type: '" ++ kind ++ "'"
  | countTooLarge =>
    "ufunc 'isfinite' not supported for the input types, and the inputs could not be safely " ++
      "coerced to any supported types according to the casting rule ''safe''"
  | noDates => "the ledger is empty"
  | tooFewPeriods found => "two periods are needed, found " ++ toString found
  | noPeriod => "a period is needed"
  | notAMessage found => "not a message: " ++ found.quoted
  | incompleteMessage part => "a message lacks its " ++ part
  | notAnAmount found => "not an amount: " ++ found.quoted
  | noColumns => "a list needs a column"

end Fault

end SalesDesk
