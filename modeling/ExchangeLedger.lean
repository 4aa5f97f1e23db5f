import ExchangeLedger.Money
import ExchangeLedger.Run
import ExchangeLedger.OrderDone
import ExchangeLedger.CircuitBreaker
import ExchangeLedger.Movement
import ExchangeLedger.Balances
import ExchangeLedger.Sell
import ExchangeLedger.OrderSettlement
import ExchangeLedger.PayoutStatus
import ExchangeLedger.Credit
import ExchangeLedger.Loan
import ExchangeLedger.Withdrawal
import ExchangeLedger.FailedLiquidity
import ExchangeLedger.Swap
import ExchangeLedger.Vault
import ExchangeLedger.AuditLog
import ExchangeLedger.AutoStack
import ExchangeLedger.Operation
import ExchangeLedger.ReservedFunds
import ExchangeLedger.InternalBalance
import ExchangeLedger.SellAmounts
import ExchangeLedger.Concurrent
import ExchangeLedger.PayoutDeliveries
import ExchangeLedger.PayoutTransfers
import ExchangeLedger.WithdrawalDeliveries
import ExchangeLedger.WithdrawalRaces
import ExchangeLedger.ConfirmOutcomes
import ExchangeLedger.Deposits
import ExchangeLedger.OrderPlacement
import ExchangeLedger.BuyReservation
import ExchangeLedger.QuoteUse
import ExchangeLedger.QuotePins
import ExchangeLedger.LoanDisbursement
import ExchangeLedger.BillRequests
import ExchangeLedger.LiquidityReservations
import ExchangeLedger.BankAccounts
import ExchangeLedger.BillClosings
import ExchangeLedger.LiquidityRetries
import ExchangeLedger.StackUnlocks
import ExchangeLedger.StackCharges
import ExchangeLedger.LiquidityAccounts
import ExchangeLedger.StackPeriods
import ExchangeLedger.Conversions
import ExchangeLedger.DefaultNetworks
import ExchangeLedger.BufferTiers
import ExchangeLedger.AmountRanges
import ExchangeLedger.CryptoCache
import ExchangeLedger.TransferLimits
import ExchangeLedger.WebhookIntake
import ExchangeLedger.DashboardStats
import ExchangeLedger.FailedLoans
import ExchangeLedger.CollateralSales
import ExchangeLedger.Tokens
import ExchangeLedger.VaultCompensation
import ExchangeLedger.DecimalRounding
import ExchangeLedger.StackCancellations
import ExchangeLedger.VaultGains
import ExchangeLedger.AmountTexts
import ExchangeLedger.SendNetworks
import ExchangeLedger.StackInterest
import ExchangeLedger.Paging
import ExchangeLedger.MaturityDispatch
import ExchangeLedger.CompanySweeps
import ExchangeLedger.QueuedSwaps
import ExchangeLedger.Binary64
import ExchangeLedger.BufferLookups
import ExchangeLedger.VaultPayouts
import ExchangeLedger.PrintedAmounts
import ExchangeLedger.LiquidityQuotes
import ExchangeLedger.StackAmounts
import ExchangeLedger.PriceSlippage
import ExchangeLedger.Frame
import ExchangeLedger.ProductFrames
import ExchangeLedger.LockedFunds
import ExchangeLedger.LoanSettings
import ExchangeLedger.SettingsCache
import ExchangeLedger.StackedFunds
import ExchangeLedger.Service
import ExchangeLedger.InternalRoles
import ExchangeLedger.Kyc
import ExchangeLedger.RoleChanges
import ExchangeLedger.AdminAccess
import ExchangeLedger.RoleSafety
import ExchangeLedger.TempStore
import ExchangeLedger.UserAccounts
import ExchangeLedger.AccountEffects
import ExchangeLedger.AccountHistory
import ExchangeLedger.PinChanges
import ExchangeLedger.Streak
import ExchangeLedger.Lockouts
import ExchangeLedger.AccountStatus
import ExchangeLedger.KycBindings
import ExchangeLedger.SchedulerCadence
import ExchangeLedger.LiquidityTerms
