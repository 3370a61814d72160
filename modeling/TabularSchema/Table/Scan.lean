import TabularSchema.Table.Attribute

/-!
# Scanning a table

A table is read page by page, and only as far as it is asked for: a scan calls the service when the
first item is wanted, requests a page when all items of the pages before it have been delivered, and
stops right behind the last item it has to deliver. It is cut short by a refused page or by an item
that cannot be read.
-/

namespace TabularSchema

inductive Page where
  /-- A page whose items are what the value gives when it is gone through. -/
  | items (v : Value)
  /-- A page without items. -/
  | blank
  /-- A page the service refuses, with a code and a text. -/
  | refused (code text : String)
deriving Repr

/-- The pages of a table; a table that does not exist has none. -/
abbrev Pages := Option (List Page)

inductive ServiceCall where
  | client (service : String)
  | paginator (operation : String)
  | paginate (parameters : Value)
deriving Repr

namespace Scan

structure Request where
  table : String
  limit : Value
  pageSize : Value
  filter : Value
  values : Value
  names : Value

def defaultPageSize : Value := .ofInt 100

/-- The parameters of a request. Values and names belong to the filter and are left out without
one. -/
def Request.parameters (r : Request) : Value :=
  let base :=
    [("TableName", .text r.table), ("PaginationConfig", Value.record [("PageSize", r.pageSize)])]
  let optional (name : String) (v : Value) : List (String × Value) :=
    if v.isTruthy then [(name, v)] else []
  .record <|
    if r.filter.isTruthy then
      base ++ [("FilterExpression", r.filter)] ++ optional "ExpressionAttributeValues" r.values ++
        optional "ExpressionAttributeNames" r.names
    else base

def Request.calls (r : Request) : List ServiceCall :=
  [.client "dynamodb", .paginator "scan", .paginate r.parameters]

def maxLimit : Int := 9223372036854775807

/-- The number of items a limit allows; null allows any number. What is no machine integer, and the
limit `-1`, is faulted as such, and any other negative limit as an index. -/
def limitOf (v : Value) : Except Failure (Option Nat) :=
  match v with
  | .null => .ok none
  | v =>
    match Attribute.integer? v with
    | none => .error (.badLimit "Stop argument")
    | some n =>
      if 0 ≤ n ∧ n ≤ maxLimit then .ok (some n.toNat)
      else if -maxLimit ≤ n + 1 ∧ n < -1 then .error (.badLimit "Indices")
      else .error (.badLimit "Stop argument")

/-- The smaller of two numbers of items, where nothing stands for any number. -/
def smaller : Option Nat → Option Nat → Option Nat
  | none, b => b
  | a, none => a
  | some a, some b => some (min a b)

/-- What a scan delivers: items, the failure that cut it short, the calls made and the number of
pages requested. -/
structure Outcome where
  items : List Value
  failure : Option Failure
  calls : List ServiceCall
  pagesRead : Nat

def Outcome.nothing : Outcome := ⟨[], none, [], 0⟩

def satisfied (demand : Option Nat) : Bool := demand = some 0

def lessOne (demand : Option Nat) : Option Nat := demand.map (· - 1)

/-- Delivers items of a page while more are wanted. Gives the items, the failure of the first that
cannot be read, and what is still wanted. -/
def deliver (demand : Option Nat) : List Value → List Value × Option Failure × Option Nat
  | [] => ([], none, demand)
  | v :: vs =>
    if satisfied demand then ([], none, demand)
    else
      match Item.ofWire v with
      | .error e => ([], some e, demand)
      | .ok item =>
        let (items, failure, rest) := deliver (lessOne demand) vs
        (item :: items, failure, rest)

/-- Reads pages while more items are wanted. Gives the items, the failure and the number of pages
requested. -/
def readPages (demand : Option Nat) : List Page → List Value × Option Failure × Nat
  | [] => ([], none, 0)
  | page :: pages =>
    if satisfied demand then ([], none, 0)
    else
      let next (demand : Option Nat) : List Value × Option Failure × Nat :=
        let (items, failure, n) := readPages demand pages
        (items, failure, n + 1)
      match page with
      | .refused code text => ([], some (.service code text), 1)
      | .blank => next demand
      | .items v =>
        match v.elements with
        | .error e => ([], some e, 1)
        | .ok vs =>
          match deliver demand vs with
          | (items, some e, _) => (items, some e, 1)
          | (items, none, demand) =>
            let (more, failure, n) := next demand
            (items ++ more, failure, n)

def tableMissing : Failure := .service "ResourceNotFoundException" "Requested resource not found"

def run (r : Request) (pages : Pages) (demand : Option Nat) : Outcome :=
  if satisfied demand then .nothing
  else
    match pages with
    | none => ⟨[], some tableMissing, r.calls, 0⟩
    | some pages =>
      let (items, failure, n) := readPages demand pages
      ⟨items, failure, r.calls, n⟩

/-- Opens a scan, which fails on a bad limit, and takes at most the wanted number of items. -/
def take (r : Request) (pages : Pages) (wanted : Option Nat) : Except Failure Outcome := do
  let limit ← limitOf r.limit
  return run r pages (smaller limit wanted)

end Scan

end TabularSchema
