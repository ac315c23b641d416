import SalesDesk.Ledger.Dataset

/-! A small distributor's ledger: several months, returns, and orders of more than one line. -/
namespace SalesDesk.Service

def sampleRecord (id : Int) (customer item category region : String) (amount quantity : Float)
    (month day : Nat) (isSale : Bool) : Record Float := {
  customer, item, category, region, amount, quantity
  masterId := .int id
  date := ⟨2024, month, day⟩
  isSale
  country := some "India" }

def sampleRecords : List (Record Float) := [
  sampleRecord 1001 "Acme Traders" "Steel Rod 8mm" "Steel" "North" 45000 300 4 2 true,
  sampleRecord 1001 "Acme Traders" "Binding Wire" "Wire" "North" 6000 120 4 2 true,
  sampleRecord 1002 "Zen Foods" "PVC Pipe 2in" "Pipes" "South" 18500 150 4 5 true,
  sampleRecord 1003 "Shree Builders" "Cement OPC 53" "Cement" "West" 120000 400 4 11 true,
  sampleRecord 1004 "Kiran Hardware" "Binding Wire" "Wire" "East" 9000 180 4 18 true,
  sampleRecord 1005 "Acme Traders" "Steel Rod 12mm" "Steel" "North" 78000 350 4 26 true,
  sampleRecord 1006 "Zen Foods" "PVC Pipe 2in" "Pipes" "South" (-3700) (-30) 4 29 false,
  sampleRecord 1007 "Shree Builders" "Steel Rod 12mm" "Steel" "West" 96000 430 5 3 true,
  sampleRecord 1007 "Shree Builders" "Cement OPC 53" "Cement" "West" 60000 200 5 3 true,
  sampleRecord 1008 "Patel Electricals" "Copper Wire 2.5sq" "Wire" "West" 34000 40 5 9 true,
  sampleRecord 1009 "Kiran Hardware" "PVC Pipe 4in" "Pipes" "East" 22000 90 5 14 true,
  sampleRecord 1010 "Acme Traders" "Cement OPC 53" "Cement" "North" 54000 180 5 21 true,
  sampleRecord 1011 "Zen Foods" "Copper Wire 2.5sq" "Wire" "South" 17000 20 5 27 true,
  sampleRecord 1012 "Patel Electricals" "Copper Wire 4sq" "Wire" "West" 51000 35 6 4 true,
  sampleRecord 1013 "Shree Builders" "Steel Rod 8mm" "Steel" "West" 67500 450 6 12 true,
  sampleRecord 1014 "Kiran Hardware" "Binding Wire" "Wire" "East" 7500 150 6 19 true,
  sampleRecord 1015 "Acme Traders" "PVC Pipe 4in" "Pipes" "North" 26400 110 6 28 true]

def sample : Except Fault (Dataset Float) := Dataset.ofRecords sampleRecords none

end SalesDesk.Service
