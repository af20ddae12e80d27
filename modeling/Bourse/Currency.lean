namespace Bourse

/-- A text that names nothing the exchange knows, and what it was read as. -/
inductive UnknownName where
  | currency (text : String)
  | pair (text : String)
  | side (text : String)
  | status (text : String)
  deriving DecidableEq, Repr

def UnknownName.message : UnknownName → String
  | .currency text => s!"unsupported currency: {text}"
  | .pair text => s!"unsupported trading pair: {text}"
  | .side text => s!"unknown order side: {text}"
  | .status text => s!"unknown order status: {text}"

inductive Currency where
  | brl | cad | eur | jpy | usd | btc | eth | matic | sol | usdt
  deriving DecidableEq, Repr

namespace Currency

def all : List Currency := [brl, cad, eur, jpy, usd, btc, eth, matic, sol, usdt]

/-- The code under which a currency is traded and stored. -/
def code : Currency → String
  | brl => "BRL"
  | cad => "CAD"
  | eur => "EUR"
  | jpy => "JPY"
  | usd => "USD"
  | btc => "BTC"
  | eth => "ETH"
  | matic => "MATIC"
  | sol => "SOL"
  | usdt => "USDT"

/-- Reads a code exactly as it is written, case included. -/
def parse (text : String) : Except UnknownName Currency :=
  match all.find? (fun c => c.code == text) with
  | some c => .ok c
  | none => .error (.currency text)

end Currency

/-- What is traded (`base`) and what it is paid in (`quote`). -/
structure Pair where
  base : Currency
  quote : Currency
  deriving DecidableEq, Repr

namespace Pair

/-- The pairs on which orders are taken. -/
def listed : List Pair :=
  [⟨.usdt, .brl⟩, ⟨.usdt, .cad⟩, ⟨.usdt, .eur⟩, ⟨.usdt, .jpy⟩, ⟨.usdt, .usd⟩,
   ⟨.btc, .usdt⟩, ⟨.eth, .usdt⟩, ⟨.matic, .usdt⟩, ⟨.sol, .usdt⟩,
   ⟨.eth, .btc⟩, ⟨.matic, .btc⟩, ⟨.sol, .btc⟩, ⟨.matic, .eth⟩, ⟨.sol, .eth⟩]

def text (pair : Pair) : String := pair.base.code ++ "/" ++ pair.quote.code

/-- The listed pair of two currencies. -/
def find (base quote : Currency) : Except UnknownName Pair :=
  if Pair.mk base quote ∈ listed then .ok ⟨base, quote⟩
  else .error (.pair (Pair.text ⟨base, quote⟩))

/-- Reads two codes around the first slash. Whatever is wrong, the whole text is reported. -/
def parse (text : String) : Except UnknownName Pair :=
  match text.toList.span (· != '/') with
  | (base, _ :: quote) =>
    match Currency.parse (String.ofList base), Currency.parse (String.ofList quote) with
    | .ok base, .ok quote => find base quote
    | _, _ => .error (.pair text)
  | (_, []) => .error (.pair text)

end Pair

end Bourse
