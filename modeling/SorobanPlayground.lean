import SorobanPlayground.MultisigWallet.Authority
import SorobanPlayground.Escrow.SwapLifecycle
import SorobanPlayground.Stablecoin.Reserve
import SorobanPlayground.Stablecoin.Rebase
import SorobanPlayground.NftAmm.Custody
import SorobanPlayground.PriceFeedAggregator.Robustness
import SorobanPlayground.Governance.Tallies
import SorobanPlayground.Escrow.MilestoneAnalytics
import SorobanPlayground.Escrow.MilestoneProgress
import SorobanPlayground.YieldOptimizer.Principal
import SorobanPlayground.Perpetuals.Overflow
import SorobanPlayground.CrossChainBridge.Accounting
import SorobanPlayground.CrossChainBridge.Quorum
import SorobanPlayground.DexAggregator.RouteIntegrity
import SorobanPlayground.StakingDerivatives.RateMonotone
import SorobanPlayground.NftFractional.Buyout
import SorobanPlayground.VcVesting.Payouts
import SorobanPlayground.TwapOracle.WindowAverage
import SorobanPlayground.LoanSyndication.Waterfall
import SorobanPlayground.FractionalShares.Guarantees
import SorobanPlayground.ParametricInsurance.Reserve
import SorobanPlayground.NftMarketplace.Escrow
import SorobanPlayground.DaoTreasury.Authority
import SorobanPlayground.PriceAggregator.Authority
import SorobanPlayground.Erc721.Ownership
import SorobanPlayground.OptionsContract.MarginPool
import SorobanPlayground.TokenVesting.Payouts
import SorobanPlayground.Royalty.Claims
import SorobanPlayground.SportsBetting.Payouts
import SorobanPlayground.Staking.Returns
import SorobanPlayground.Backend.NoncePool
import SorobanPlayground.Backend.OracleLocks.Exclusion
import SorobanPlayground.Backend.OracleLocks.Detection
import SorobanPlayground.Backend.OracleConsensus.Submission
import SorobanPlayground.Indexer.Quorums.Reputations
import SorobanPlayground.Indexer.AuditTrail.Integrity
import SorobanPlayground.Indexer.Ledgers
import SorobanPlayground.Backend.ProofQueue.LeaseSafety
import SorobanPlayground.SyntheticAssets.Liquidation
import SorobanPlayground.SubscriptionBilling.Consent
import SorobanPlayground.Backend.OrderBook.Agreement
import SorobanPlayground.Backend.CircuitBreaker.Recovery
import SorobanPlayground.Backend.Migrations.Lifecycle
import SorobanPlayground.Backend.Webhooks.Exactness
import SorobanPlayground.Backend.EventIndexer.Progress
import SorobanPlayground.SyntheticAssets.Views
import SorobanPlayground.PredictionMarket.SellQuote
import SorobanPlayground.PredictionMarket.SpotPrice
import SorobanPlayground.PredictionMarket.LegacyBets
import SorobanPlayground.YieldFarming.ExactAllocation
import SorobanPlayground.AmmPool.SplitSwap
import SorobanPlayground.AmmPool.DynamicFee
import SorobanPlayground.LendingPool.Liquidation
import SorobanPlayground.Perpetuals.ZeroSum
import SorobanPlayground.Perpetuals.FundingRate
import SorobanPlayground.CrossChainBridge.DailyLimit
import SorobanPlayground.OptionsProtocol.Settlement
import SorobanPlayground.OptionsProtocol.BlackScholes
import SorobanPlayground.QuadraticVoting.VotingPower
import SorobanPlayground.Reputation.Decay
import SorobanPlayground.Backend.OptimisticStore
import SorobanPlayground.Indexer.Merkle
