import SalesDesk.Ledger.Dataset
import SalesDesk.Conversation.Context
import SalesDesk.Limit
import SalesDesk.Reply.Currency

/-! What an assistant is told: its instructions, earlier messages, the question and the data. -/
namespace SalesDesk

structure Message where
  role : String
  content : String
deriving DecidableEq

namespace Message

def userRole : String := "user"

def assistantRole : String := "assistant"

def user (content : String) : Message := ⟨userRole, content⟩

def assistant (content : String) : Message := ⟨assistantRole, content⟩

end Message

/-- A message as it is given from outside, where a part may be missing. -/
structure Draft where
  role : Option String
  content : Option String

namespace Draft

def ofMessage (m : Message) : Draft := ⟨some m.role, some m.content⟩

def role? (d : Draft) : Except Fault String :=
  match d.role with
  | some role => .ok role
  | none => .error (.incompleteMessage "role")

def complete (d : Draft) : Except Fault Message :=
  match d.role?, d.content with
  | .ok role, some content => .ok ⟨role, content⟩
  | .ok _, none => .error (.incompleteMessage "content")
  | .error f, _ => .error f

end Draft

namespace Prompt

def system (symbol : String) (wordLimit : Int) : String :=
  "You are a sales data analyst for a small business. Answer ONLY from the sales data you are given.

Currency:
- Every amount is in " ++ Currency.nameOf symbol ++ " (" ++ symbol ++ ")
- Always write amounts as " ++ symbol ++
  "1,234.56 and never use any other currency symbol or name
- Show one amount per figure, never \"X (Y)\" pairs

Answers:
- Keep answers under " ++ toString wordLimit ++ " words
- Use markdown tables for lists of more than three rows: | Rank | Name | Amount |
- Use the conversation context to resolve follow-ups such as \"top 5\" or \"what about may\"
- If the data cannot answer the question, say so in one sentence

Scope:
- Talk only about this business's sales: " ++
  "customers, products, stock groups, regions, dates and amounts
- Refuse anything else (programming, academic writing, general knowledge) in one sentence"

def fromUser : List Draft → Except Fault (List Message)
  | [] => .ok []
  | d :: rest => do
    if (← d.role?) == Message.userRole then (d :: rest).mapM Draft.complete else fromUser rest

def question (query : String) (dataset : Dataset Float) (context : Context) :
    Except Fault String := do
  let records ← Json.write (.list (dataset.records.map fun r => .object r.toFields))
  let metrics ← Json.writeLines dataset.metrics.toFields
  let context ← Json.writeLines context.toFields
  return "Sales data (" ++ toString dataset.size ++ " records):\n" ++ records ++
    "\n\nMetrics:\n" ++ metrics ++ "\n\nConversation context:\n" ++ context ++
    "\n\nQuestion: " ++ query

def messages (query : String) (dataset : Dataset Float) (context : Context)
    (history : List Draft) (turns : Int) : Except Fault (List Message) := do
  let past ← fromUser (lastFew turns history)
  return past ++ [Message.user (← question query dataset context)]

end Prompt

end SalesDesk
