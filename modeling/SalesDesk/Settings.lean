import SalesDesk.Report.Format

/-! Settings of the program, read from named texts with a default for each. -/
namespace SalesDesk

structure Settings where
  model : String := "claude-sonnet-4-6"
  maxTokens : Int := 1000
  timeoutSeconds : Int := 30
  maxRetries : Int := 1
  historyTurns : Int := 10
  wordLimit : Int := 200
  symbol : String := "₹"
  grouping : String := DigitGrouping.indian.name

namespace Settings

def textOr (env : Entries String) (name other : String) : String := (env.lookup name).getD other

/-- An integer that is set. A blank text counts as not set. -/
def intOr (env : Entries String) (name : String) (other : Int) : Except Fault Int :=
  match env.lookup name with
  | none => .ok other
  | some s =>
    if Text.isBlankText s then .ok other
    else
      match Number.readInt s with
      | .value n => .ok n
      | _ => .error (.badSetting name s)

def ofEnv (env : Entries String) : Except Fault Settings := do
  let usual : Settings := {}
  return {
    model := textOr env "SALES_CHAT_MODEL" usual.model
    maxTokens := ← intOr env "SALES_CHAT_MAX_TOKENS" usual.maxTokens
    timeoutSeconds := ← intOr env "SALES_CHAT_LLM_TIMEOUT" usual.timeoutSeconds
    maxRetries := ← intOr env "SALES_CHAT_LLM_RETRIES" usual.maxRetries
    historyTurns := ← intOr env "SALES_CHAT_HISTORY_TURNS" usual.historyTurns
    wordLimit := ← intOr env "SALES_CHAT_WORD_LIMIT" usual.wordLimit
    symbol := textOr env "SALES_CHAT_CURRENCY" usual.symbol
    grouping := Text.lower (textOr env "SALES_CHAT_NUMBER_GROUPING" usual.grouping) }

def style (s : Settings) : Except Fault Style := Style.make s.symbol s.grouping " units"

end Settings

end SalesDesk
