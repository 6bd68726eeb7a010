import Mathlib.Algebra.Order.Group.Int
import Mathlib.Tactic.Abel

/-! # Markets with a quoted price

A market quotes the cost of one unit and the payout for one unit, and every trade
moves it: up after a buy, down after a sale. A trader who is long some units can
sell them off one after another, a trader who is short can buy them back, and the
money that this brings is the mark of the position (`QuotedMarket.mark`). What a
trader is worth is the money and the mark together. A trade that brings the position
closer to zero does not change the worth; a trade that takes it further away
changes it by the edge of the trade (`QuotedMarket.buyEdge`,
`QuotedMarket.sellEdge`). Where trades give no edge to the trader, a position that
returns to zero has earned nothing (`QuotedMarket.Account.money_le_of_flat`).
-/

/-- A market that quotes a unit's cost and payout and moves with every trade. -/
structure QuotedMarket (Market Money : Type*) where
  up : Market → Market
  down : Market → Market
  cost : Market → Money
  payout : Market → Money

namespace QuotedMarket

variable {Market Money : Type*} [AddCommGroup Money] (quotes : QuotedMarket Market Money)

/-- The money for selling a number of units one after another. -/
def sellOff : Nat → Market → Money
  | 0, _ => 0
  | units + 1, market => quotes.payout market + sellOff units (quotes.down market)

/-- The money for buying a number of units one after another. -/
def buyBack : Nat → Market → Money
  | 0, _ => 0
  | units + 1, market => quotes.cost market + buyBack units (quotes.up market)

/-- The money that closing a position brings, negative where it costs. -/
def mark (position : Int) (market : Market) : Money :=
  quotes.sellOff position.toNat market - quotes.buyBack (-position).toNat market

/-- What a buy adds to the worth of a trader with a position. -/
def buyEdge (position : Int) (market : Market) : Money :=
  quotes.mark (position + 1) (quotes.up market) - quotes.cost market - quotes.mark position market

/-- What a sale adds to the worth of a trader with a position. -/
def sellEdge (position : Int) (market : Market) : Money :=
  quotes.mark (position - 1) (quotes.down market) + quotes.payout market -
    quotes.mark position market

@[simp] theorem mark_zero (market : Market) : quotes.mark 0 market = 0 :=
  sub_self 0

variable {position : Int}

theorem mark_long (long : 0 < position) (market : Market) :
    quotes.mark position market =
      quotes.payout market + quotes.mark (position - 1) (quotes.down market) := by
  obtain ⟨units, rfl⟩ : ∃ units : Nat, position = units + 1 := ⟨(position - 1).toNat, by omega⟩
  have longer : ((units : Int) + 1).toNat = units + 1 := by omega
  have shorter : ((units : Int) + 1 - 1).toNat = units := by omega
  have none : (-((units : Int) + 1)).toNat = 0 := by omega
  have less : (-((units : Int) + 1 - 1)).toNat = 0 := by omega
  simp only [mark, longer, shorter, none, less, sellOff, buyBack, sub_zero]

theorem mark_short (short : position < 0) (market : Market) :
    quotes.mark position market =
      quotes.mark (position + 1) (quotes.up market) - quotes.cost market := by
  obtain ⟨units, rfl⟩ : ∃ units : Nat, position = -(units + 1) := ⟨(-position - 1).toNat, by omega⟩
  have longer : (-(-((units : Int) + 1))).toNat = units + 1 := by omega
  have shorter : (-(-((units : Int) + 1) + 1)).toNat = units := by omega
  have none : (-((units : Int) + 1)).toNat = 0 := by omega
  have less : (-((units : Int) + 1) + 1).toNat = 0 := by omega
  simp only [mark, longer, shorter, none, less, sellOff, buyBack, zero_sub]
  abel

/-- Buying back a unit of a short position has no edge. -/
theorem buyEdge_of_short (short : position < 0) (market : Market) :
    quotes.buyEdge position market = 0 := by
  unfold buyEdge
  rw [quotes.mark_short short, sub_self]

/-- Selling a unit of a long position has no edge. -/
theorem sellEdge_of_long (long : 0 < position) (market : Market) :
    quotes.sellEdge position market = 0 := by
  unfold sellEdge
  rw [quotes.mark_long long, add_comm, sub_self]

/-- The edge of a first buy is the profit of selling the unit at once. -/
theorem buyEdge_zero (market : Market) :
    quotes.buyEdge 0 market = quotes.payout (quotes.up market) - quotes.cost market := by
  unfold buyEdge
  rw [zero_add, quotes.mark_long Int.one_pos, Int.sub_self, mark_zero, mark_zero, add_zero,
    sub_zero]

/-- The edge of a first sale is the profit of buying the unit back at once. -/
theorem sellEdge_zero (market : Market) :
    quotes.sellEdge 0 market = quotes.payout market - quotes.cost (quotes.down market) := by
  unfold sellEdge
  have short : (0 : Int) - 1 < 0 := by decide
  rw [quotes.mark_short short, Int.sub_add_cancel, mark_zero, mark_zero, zero_sub, sub_zero,
    neg_add_eq_sub]

/-- A trader's money and position at a market. -/
structure Account (Market Money : Type*) where
  money : Money
  position : Int
  market : Market

namespace Account

variable (account : Account Market Money)

/-- The account after buying a unit. -/
def buy : Account Market Money :=
  { money := account.money - quotes.cost account.market
    position := account.position + 1
    market := quotes.up account.market }

/-- The account after selling a unit. -/
def sell : Account Market Money :=
  { money := account.money + quotes.payout account.market
    position := account.position - 1
    market := quotes.down account.market }

/-- The money of an account together with the mark of its position. -/
def worth : Money := account.money + quotes.mark account.position account.market

theorem worth_buy : (account.buy quotes).worth quotes =
    account.worth quotes + quotes.buyEdge account.position account.market := by
  unfold worth buyEdge
  generalize quotes.mark account.position account.market = current
  calc account.money - quotes.cost account.market +
        quotes.mark (account.position + 1) (quotes.up account.market)
      = account.money + (quotes.mark (account.position + 1) (quotes.up account.market) -
          quotes.cost account.market) := by rw [sub_add_eq_add_sub, add_sub_assoc]
    _ = account.money + current + (quotes.mark (account.position + 1) (quotes.up account.market) -
          quotes.cost account.market - current) := by rw [add_assoc, add_sub_cancel]

theorem worth_sell : (account.sell quotes).worth quotes =
    account.worth quotes + quotes.sellEdge account.position account.market := by
  unfold worth sellEdge
  generalize quotes.mark account.position account.market = current
  calc account.money + quotes.payout account.market +
        quotes.mark (account.position - 1) (quotes.down account.market)
      = account.money + (quotes.mark (account.position - 1) (quotes.down account.market) +
          quotes.payout account.market) := by rw [add_assoc, add_comm (quotes.payout _)]
    _ = account.money + current + (quotes.mark (account.position - 1) (quotes.down account.market) +
          quotes.payout account.market - current) := by rw [add_assoc, add_sub_cancel]

variable [PartialOrder Money] [IsOrderedAddMonoid Money] {quotes account}

/-- A buy raises the worth of an account only by an edge on a position that is not short. -/
theorem worth_buy_le
    (fair : 0 ≤ account.position → quotes.buyEdge account.position account.market ≤ 0) :
    (account.buy quotes).worth quotes ≤ account.worth quotes := by
  rw [worth_buy]
  apply add_le_of_nonpos_right
  by_cases short : account.position < 0
  · exact (quotes.buyEdge_of_short short account.market).le
  · exact fair (Int.not_lt.mp short)

/-- A sale raises the worth of an account only by an edge on a position that is not long. -/
theorem worth_sell_le
    (fair : account.position ≤ 0 → quotes.sellEdge account.position account.market ≤ 0) :
    (account.sell quotes).worth quotes ≤ account.worth quotes := by
  rw [worth_sell]
  apply add_le_of_nonpos_right
  by_cases long : 0 < account.position
  · exact (quotes.sellEdge_of_long long account.market).le
  · exact fair (Int.not_lt.mp long)

omit [IsOrderedAddMonoid Money] in
/-- Between flat positions, money that the worth bounds is bounded by money. -/
theorem money_le_of_flat {earlier : Account Market Money}
    (bound : account.worth quotes ≤ earlier.worth quotes) (flat : account.position = 0)
    (earlierFlat : earlier.position = 0) : account.money ≤ earlier.money := by
  unfold worth at bound
  rwa [flat, earlierFlat, mark_zero, mark_zero, add_zero, add_zero] at bound

end Account

end QuotedMarket
