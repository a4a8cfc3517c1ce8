import SwapLoops.Address.Checksum
import SwapLoops.Json.Reader
import SwapLoops.Json.Writer
import SwapLoops.Pair
import SwapLoops.Text.Blank
import SwapLoops.Word.Text

/-! Pairs as they are kept on disk: one JSON object in a line, tagged with the
protocol. Reserves are text, so that readers with small numbers keep them exact. -/

namespace SwapLoops

structure Record where
  address : String
  token0 : String
  token1 : String
  reserve0 : String
  reserve1 : String
  fee : Option UInt32
  failed : Bool
  block : UInt64
  tx : UInt64
  log : UInt64
  observedAt : Seconds
deriving DecidableEq, Repr

inductive RecordError
  | json
  | address (field value : String)
  | integer (field value : String)
  | zeroReserve (address : String)
deriving DecidableEq, Repr

def RecordError.message : RecordError → String
  | .json => "record is not valid json"
  | .address field value => "invalid address in field " ++ field ++ ": " ++ value
  | .integer field value => "invalid integer in field " ++ field ++ ": " ++ value
  | .zeroReserve pair => "record for " ++ pair ++ " has a zero reserve"

namespace Record

def protocolTag : Protocol → String
  | .uniswapV2 => "uniswap_v2"

/-! Members of a record, from the values they are written as. -/

def text? : Json → Option String
  | .text s => some s
  | _ => none

def uint64? : Json → Option UInt64
  | .int n => if 0 ≤ n ∧ n.toNat < UInt64.size then some (UInt64.ofNat n.toNat) else none
  | _ => none

def seconds? : Json → Option Seconds
  | .int n =>
    if Int64.minValue.toInt ≤ n ∧ n ≤ Int64.maxValue.toInt then some (Int64.ofInt n) else none
  | _ => none

def fee? : Json → Option (Option UInt32)
  | .null => some none
  | .int n => if 0 ≤ n ∧ n.toNat < UInt32.size then some (some (UInt32.ofNat n.toNat)) else none
  | _ => none

def bool? : Json → Option Bool
  | .bool b => some b
  | _ => none

/-- The member of a name, if there is one. Nothing at all if the name stands twice. -/
def member? (fields : List (String × Json)) (name : String) : Option (Option Json) :=
  match fields.filter (·.1 = name) with
  | [] => some none
  | [(_, v)] => some (some v)
  | _ => none

def required? {α : Type} (fields : List (String × Json)) (read : Json → Option α) (name : String) :
    Option α := do
  let v ← (← member? fields name)
  read v

def optional? {α : Type} (fields : List (String × Json)) (read : Json → Option α) (default : α)
    (name : String) : Option α := do
  match ← member? fields name with
  | some v => read v
  | none => some default

def isTag (v : Json) : Bool := text? v = some (protocolTag .uniswapV2)

def ofFields? (fields : List (String × Json)) : Option Record := do
  let tag ← required? fields some "protocol"
  if isTag tag then
    some {
      address := ← required? fields text? "address"
      token0 := ← required? fields text? "token0"
      token1 := ← required? fields text? "token1"
      reserve0 := ← required? fields text? "reserve0"
      reserve1 := ← required? fields text? "reserve1"
      fee := ← optional? fields fee? none "fee"
      failed := ← optional? fields bool? false "error"
      block := ← required? fields uint64? "block_number"
      tx := ← required? fields uint64? "tx_index"
      log := ← required? fields uint64? "log_index"
      observedAt := ← required? fields seconds? "observed_at" }
  else none

/-- A record may also be written as a list: the tag, then all members in order. -/
def ofItems? (items : List Json) : Option Record :=
  match items with
  | [tag, address, token0, token1, reserve0, reserve1, fee, failed, block, tx, log, observedAt] =>
    if isTag tag then do
      some {
        address := ← text? address
        token0 := ← text? token0
        token1 := ← text? token1
        reserve0 := ← text? reserve0
        reserve1 := ← text? reserve1
        fee := ← fee? fee
        failed := ← bool? failed
        block := ← uint64? block
        tx := ← uint64? tx
        log := ← uint64? log
        observedAt := ← seconds? observedAt }
    else none
  | _ => none

def ofJson? : Json → Option Record
  | .object fields => ofFields? fields
  | .list items => ofItems? items
  | _ => none

def ofLine (line : String) : Except RecordError Record :=
  match (Json.ofText? line).bind ofJson? with
  | some r => .ok r
  | none => .error .json

def members (r : Record) : List (String × Json.Token) :=
  [("protocol", .text (protocolTag .uniswapV2)), ("address", .text r.address),
    ("token0", .text r.token0), ("token1", .text r.token1), ("reserve0", .text r.reserve0),
    ("reserve1", .text r.reserve1)] ++
  (r.fee.map fun f => ("fee", Json.Token.int f.toNat)).toList ++
  [("error", .bool r.failed), ("block_number", .int r.block.toNat), ("tx_index", .int r.tx.toNat),
    ("log_index", .int r.log.toNat), ("observed_at", .int r.observedAt.toInt)]

def line (r : Record) : String := Json.write (Json.objectTokens r.members)

def ofPair (p : Pair) : Record where
  address := p.address.checksum
  token0 := p.token0.checksum
  token1 := p.token1.checksum
  reserve0 := p.reserve0.text
  reserve1 := p.reserve1.text
  fee := p.fee
  failed := p.failed
  block := p.provenance.position.block
  tx := p.provenance.position.tx
  log := p.provenance.position.log
  observedAt := p.provenance.observedAt

def readAddress (field value : String) : Except RecordError Address :=
  match Address.ofText? (Text.trim value) with
  | some a => .ok a
  | none => .error (.address field value)

def readReserve (field value : String) : Except RecordError Word :=
  match Word.ofDecimal? (Text.trim value) with
  | some w => .ok w
  | none => .error (.integer field value)

/-- The pair that a record describes. It has an address and liquidity on both sides. -/
def toPair (r : Record) : Except RecordError Pair := do
  let address ← readAddress "address" r.address
  if address = 0 then throw (.address "address" r.address)
  let reserve0 ← readReserve "reserve0" r.reserve0
  let reserve1 ← readReserve "reserve1" r.reserve1
  if reserve0 = 0 ∨ reserve1 = 0 then throw (.zeroReserve r.address)
  let token0 ← readAddress "token0" r.token0
  let token1 ← readAddress "token1" r.token1
  pure {
    protocol := .uniswapV2
    address, token0, token1, reserve0, reserve1
    fee := r.fee
    failed := r.failed
    provenance := ⟨⟨r.block, r.tx, r.log⟩, r.observedAt⟩
    earlier := .none }

end Record

def Pair.ofLine (line : String) : Except RecordError Pair := do
  let r ← Record.ofLine line
  r.toPair

def Pair.line (p : Pair) : String := (Record.ofPair p).line

end SwapLoops
