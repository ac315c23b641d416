import SalesDesk.Proofs.Assistant.Messages

/-!
The currency of a turn with a language model: the one that its instructions announce, and the one
that its reply is corrected to. Both are the currency that the ledger shows; where it shows none,
the one is the currency of the settings and the other that of the session.
-/
namespace SalesDesk

namespace Reply

def sampleFields (records : List (Record Float)) : List (Entries Value) :=
  (records.take currencySample).map Record.toFields

/-- Do the records show a currency, by a country that is known or by a word or sign of one? -/
def showsCurrency (records : List (Record Float)) : Bool :=
  let text := Text.lower (Json.line (listed (sampleFields records)))
  !(votes (sampleFields records)).isEmpty ||
    [Currency.rupee, Currency.dollar].any fun c =>
      [Text.lower c.unit, Text.lower c.code, c.symbol].any (Text.hasFragment text)

theorem isSome_sampleCurrency? (records : List (Record Float)) :
    (sampleCurrency? (sampleFields records)).isSome = showsCurrency records := by
  unfold sampleCurrency? showsCurrency byVotes? byMarkers?
  cases votes (sampleFields records) with
  | nil =>
    rw [List.head?_nil, Option.map_none, Option.none_or, List.isSome_find?, List.isEmpty_nil,
      Bool.not_true, Bool.false_or]
  | cons first rest => rfl

/-- The symbol of a ledger that shows its currency, and any other symbol otherwise. -/
def symbolOf (records : List (Record Float)) (other : String) : String :=
  ((sampleCurrency? (sampleFields records)).map Currency.symbol).getD other

/-- The currency of a ledger is told if the ids of its first records can be written. -/
theorem ledgerCurrency_eq {records : List (Record Float)}
    (h : ∀ r ∈ records, r.masterId.holdsLongInteger = false) (other : String) :
    ledgerCurrency records other = .ok (symbolOf records other) := by
  have hsample : (sampleFields records).take currencySample = sampleFields records := by
    rw [sampleFields, ← List.map_take, List.take_take, Nat.min_self]
  have hcountries :
      (Value.list ((sampleFields records).map countryOf)).holdsLongInteger = false := by
    rw [Value.holdsLongInteger_list, sampleFields, List.map_map, List.any_map, List.any_eq_false]
    intro r _
    have hcountry : countryOf r.toFields = (r.country.map Value.text).getD .null := rfl
    cases hr : r.country <;> simp [hcountry, hr, Value.holdsLongInteger]
  have hlisted : (listed (sampleFields records)).holdsLongInteger = false := by
    rw [listed, Value.holdsLongInteger_list, sampleFields, List.map_map, List.any_map,
      List.any_eq_false]
    intro r hr
    simpa [Record.holdsLongInteger_toFields] using h r (List.mem_of_mem_take hr)
  have hcurrency : currencyOf (sampleFields records) other = symbolOf records other := by
    rw [currencyOf, hsample, symbolOf]
  change currency (sampleFields records) other = _
  unfold currency
  simp only [hsample, Value.written_of_short hcountries, Value.written_of_short hlisted, ok_bind,
    hcurrency, pure_eq_ok, ite_self]

/-- Two symbols are the same for a ledger that shows its currency, and only for such a one unless
they are the same anyway. -/
theorem symbolOf_eq_iff (records : List (Record Float)) (symbol other : String) :
    symbolOf records symbol = symbolOf records other ↔
      showsCurrency records = true ∨ symbol = other := by
  rw [symbolOf, symbolOf, ← isSome_sampleCurrency?]
  cases sampleCurrency? (sampleFields records) with
  | none => simp
  | some c => simp

end Reply

namespace Model

section
variable {m : Model} {query : String} {d : Dataset Float} {context : Context}
  {history : List Message}

/-- A request announces the currency that the ledger shows, or that of the settings. -/
theorem request_eq_ok {request : Request}
    (h : m.request query d context (history.map Draft.ofMessage) = .ok request) :
    (d.IsWritable ∧ context.IsWritable ∧ Number.isWritable m.wordLimit = true) ∧
      request.system = Prompt.system (Reply.symbolOf d.records m.symbol) m.wordLimit := by
  obtain ⟨symbol, hsymbol, h⟩ := bind_eq_ok.mp h
  obtain ⟨messages, hmessages, h⟩ := bind_eq_ok.mp h
  obtain ⟨system, hsystem, h⟩ := bind_eq_ok.mp h
  have hboth : d.IsWritable ∧ context.IsWritable := by
    by_contra hlong
    rw [Prompt.messages_eq_error hlong] at hmessages
    cases hmessages
  obtain ⟨hlimit, rfl⟩ := Number.written_eq_ok_iff.mp hsystem
  obtain rfl := Except.ok.inj (hsymbol.symm.trans (Reply.ledgerCurrency_eq hboth.1.ids m.symbol))
  cases h
  exact ⟨⟨hboth.1, hboth.2, hlimit⟩, rfl⟩

theorem exists_request_iff :
    (∃ request, m.request query d context (history.map Draft.ofMessage) = .ok request) ↔
      d.IsWritable ∧ context.IsWritable ∧ Number.isWritable m.wordLimit = true := by
  constructor
  · rintro ⟨request, h⟩
    exact (request_eq_ok h).1
  · rintro ⟨hd, hcontext, hlimit⟩
    obtain ⟨asked, hmessages, -⟩ :=
      Prompt.exists_messages_eq ⟨hd, hcontext⟩ query history m.historyTurns
    rw [request, Reply.ledgerCurrency_eq hd.ids, hmessages]
    simp only [ok_bind, Number.written_of_isWritable hlimit]
    exact ⟨_, rfl⟩

end

/-- The assistant replies with the first text that the model sends back. -/
theorem assistant_eq_reply {m : Model} {send : Request → Response} {query reply : String}
    {d : Dataset Float} {context : Context} {history : List Message} {request : Request}
    {more : List (Option Value)}
    (hrequest : m.request query d context (history.map Draft.ofMessage) = .ok request)
    (hsend : send request = .blocks (some (.text reply) :: more)) (hreply : reply ≠ "") :
    m.assistant send query d context history = .reply (.text reply) := by
  have hholds : (Value.text reply).holdsSomething = true := by simpa [Value.holdsSomething]
  simp only [assistant, hrequest, hsend, outcome, hholds, if_true]

end Model

namespace Session

variable {s : Session} {message : String}

/-- An assistant is asked about any message that is not blank, unless the ledger is empty, and its
reply is corrected to the currency of the ledger, or of the session. -/
theorem ask_of_assistant {assistant : Assistant} (hassistant : s.assistant = some assistant)
    (hledger : s.dataset.isEmpty = false) (hblank : Text.isBlankText message = false)
    {reply symbol : String}
    (h : assistant message s.dataset s.context s.history = .reply (.text reply))
    (hsymbol : Reply.ledgerCurrency s.dataset.records s.style.symbol = .ok symbol) :
    ∃ response after, s.ask message = (.answered response, after) ∧
      response.source = .assistant ∧ response.answer = Reply.tidy reply symbol s.wordLimit := by
  have hasked : ({ s with typing := true } : Session).asked? = some assistant := by
    simp [asked?, hledger, hassistant]
  unfold ask respond
  rw [hblank, hasked]
  simp only [h, Bool.false_eq_true, if_false, byReply, hsymbol]
  exact ⟨_, _, rfl, rfl, rfl⟩

/-- In a turn with a language model the instructions announce one symbol and the reply is corrected
to one. The two are the same if the ledger shows its currency, or if the session writes figures with
the symbol of the settings, and only then. A turn in which something has too many digits to be
written gets to no request. -/
theorem announced_eq_applied_iff (m : Model) (send : Model.Request → Model.Response)
    (hassistant : s.assistant = some (m.assistant send)) (hledger : s.dataset.isEmpty = false)
    (hblank : Text.isBlankText message = false) :
    let sent := m.request message s.dataset s.context (s.history.map Draft.ofMessage)
    ((∃ request, sent = .ok request) ↔ s.dataset.IsWritable ∧ s.context.IsWritable ∧
      Number.isWritable m.wordLimit = true) ∧
    ∀ request, sent = .ok request → ∃ announced applied,
      Reply.ledgerCurrency s.dataset.records m.symbol = .ok announced ∧
      Reply.ledgerCurrency s.dataset.records s.style.symbol = .ok applied ∧
      request.system = Prompt.system announced m.wordLimit ∧
      (∀ reply more, reply ≠ "" → send request = .blocks (some (.text reply) :: more) →
        ∃ response after, s.ask message = (.answered response, after) ∧
          response.source = .assistant ∧
          response.answer = Reply.tidy reply applied s.wordLimit) ∧
      (announced = applied ↔
        Reply.showsCurrency s.dataset.records = true ∨ s.style.symbol = m.symbol) := by
  intro sent
  refine ⟨Model.exists_request_iff, fun request hrequest => ?_⟩
  obtain ⟨⟨hd, -, -⟩, hsystem⟩ := Model.request_eq_ok hrequest
  have happlied := Reply.ledgerCurrency_eq hd.ids s.style.symbol
  refine ⟨_, _, Reply.ledgerCurrency_eq hd.ids m.symbol, happlied, hsystem, ?_, ?_⟩
  · intro reply more hreply hsend
    exact ask_of_assistant hassistant hledger hblank
      (Model.assistant_eq_reply hrequest hsend hreply) happlied
  · rw [eq_comm (a := s.style.symbol)]
    exact Reply.symbolOf_eq_iff _ _ _

/-- A session about one sale to a customer of a country, with a model that answers every question
with the same words. -/
def cannedDesk (country : Option String) (symbol reply : String) : Session :=
  let sale : Record Float :=
    { customer := "Acme", item := "Rod", category := "", region := "", amount := 100,
      quantity := 1, masterId := .text "m1", date := ⟨2024, 4, 2⟩, country }
  fresh ⟨[sale], [sale], Vocabulary.ofRecords [sale], ⟨100, 1, 1, 1, 100⟩⟩
    (some ((Model.ofSettings {}).assistant fun _ => .blocks [some (.text reply)])) { symbol } 200

theorem isWritable_cannedDesk (country : Option String) (symbol reply : String) :
    (cannedDesk country symbol reply).dataset.IsWritable ∧
      (cannedDesk country symbol reply).context.IsWritable ∧
      Number.isWritable (Model.ofSettings {}).wordLimit = true := by
  have hone : Number.isWritable 1 = true := Number.isWritable_of_lt_word (by decide)
  refine ⟨⟨?_, hone, hone⟩, nofun, Number.isWritable_of_lt_word (by decide)⟩
  intro r hr
  obtain rfl := List.mem_singleton.mp hr
  simp [Value.holdsLongInteger]

theorem announced_eq_applied_iff_india :
    let s := cannedDesk (some "India") "€" "Acme spent $100."
    let m := Model.ofSettings {}
    (s.assistant = some (m.assistant fun _ => .blocks [some (.text "Acme spent $100.")]) ∧
      s.dataset.isEmpty = false ∧ Text.isBlankText "who bought most?" = false) ∧
    ∃ request announced response after,
      m.request "who bought most?" s.dataset s.context (s.history.map Draft.ofMessage) =
        .ok request ∧
      request.system = Prompt.system announced m.wordLimit ∧
      Reply.ledgerCurrency s.dataset.records s.style.symbol = .ok announced ∧
      s.ask "who bought most?" = (.answered response, after) ∧
      response.source = .assistant ∧ response.answer = "Acme spent ₹100." := by
  intro s m
  have hblank : Text.isBlankText "who bought most?" = false := by decide +kernel
  obtain ⟨hsent, hturn⟩ := announced_eq_applied_iff (s := s) m
    (fun _ => .blocks [some (.text "Acme spent $100.")]) rfl rfl hblank
  have hwritable := isWritable_cannedDesk (some "India") "€" "Acme spent $100."
  obtain ⟨request, hrequest⟩ := hsent.mpr hwritable
  obtain ⟨announced, applied, -, happlied, hsystem, hreply, hsame⟩ := hturn request hrequest
  have hshows : Reply.showsCurrency s.dataset.records = true ∧
      Reply.tidy "Acme spent $100." (Reply.symbolOf s.dataset.records "€") s.wordLimit =
        "Acme spent ₹100." := by decide +kernel
  obtain rfl : announced = applied := hsame.mpr (.inl hshows.1)
  obtain ⟨response, after, hask, hsource, hanswer⟩ :=
    hreply "Acme spent $100." [] (by decide) rfl
  obtain rfl : _ = announced :=
    Except.ok.inj ((Reply.ledgerCurrency_eq hwritable.1.ids "€").symm.trans happlied)
  exact ⟨⟨rfl, rfl, hblank⟩, request, _, response, after, hrequest, hsystem, happlied, hask,
    hsource, hanswer.trans hshows.2⟩

/-- The ledger shows no currency: the model is told to write rupees, and its rupees are turned into
the dollars of the session. -/
theorem rupees_announced_dollars_applied :
    let s := cannedDesk none "$" "Acme spent ₹100."
    let m := Model.ofSettings {}
    (∃ request,
      m.request "who bought most?" s.dataset s.context (s.history.map Draft.ofMessage) =
        .ok request ∧
      request.system = Prompt.system "₹" m.wordLimit) ∧
    Reply.ledgerCurrency s.dataset.records s.style.symbol = .ok "$" ∧
    ∃ response after, s.ask "who bought most?" = (.answered response, after) ∧
      response.source = .assistant ∧ response.answer = "Acme spent $100." := by
  intro s m
  have hwritable := isWritable_cannedDesk none "$" "Acme spent ₹100."
  obtain ⟨request, hrequest⟩ := Model.exists_request_iff.mpr hwritable
  have hseen : Reply.symbolOf s.dataset.records m.symbol = "₹" ∧
      Reply.symbolOf s.dataset.records "$" = "$" ∧
      Reply.tidy "Acme spent ₹100." "$" 200 = "Acme spent $100." := by decide +kernel
  have happlied := Reply.ledgerCurrency_eq hwritable.1.ids "$"
  rw [hseen.2.1] at happlied
  have hsystem := (Model.request_eq_ok hrequest).2
  rw [hseen.1] at hsystem
  have hblank : Text.isBlankText "who bought most?" = false := by decide +kernel
  obtain ⟨response, after, hask, hsource, hanswer⟩ := ask_of_assistant (s := s) rfl rfl hblank
    (Model.assistant_eq_reply hrequest rfl (by decide)) happlied
  exact ⟨⟨request, hrequest, hsystem⟩, happlied, response, after, hask, hsource,
    hanswer.trans hseen.2.2⟩

end Session

end SalesDesk
