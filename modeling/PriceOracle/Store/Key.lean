/-!
# PriceOracle.Store.Key

The names under which the node keeps its records. The last four families are numbered.
-/

namespace PriceOracle
namespace Key

/-- The stake status of the account, as told by the contract. -/
def disputeStatus : String := "dispute_status"

def currentChallenge : String := "current_challenge"

def currentRequestId : String := "current_request_id"

def currentDifficulty : String := "current_difficulty"

def gasPrice : String := "gas_price"

def ethBalance : String := "eth_balance"

def tokenBalance : String := "token_balance"

def gasCost (slot : Nat) : String := "gas_cost_" ++ toString slot

def priceHistory (requestId : Nat) : String := "price_history_" ++ toString requestId

def queryValue (requestId : Nat) : String := "query_value_" ++ toString requestId

/-- How many submissions are remembered by their cost. -/
def gasCostSlots : Nat := 6

end Key
end PriceOracle
