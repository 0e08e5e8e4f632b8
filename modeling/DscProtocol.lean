import DscProtocol.Exit
import DscProtocol.Liquidation
import DscProtocol.OracleFreeze
import DscProtocol.Ownership
import DscProtocol.PoolRecovery
import DscProtocol.Solvency
import DscProtocol.Conversion
import DscProtocol.Registry
import DscProtocol.CoinSupply
import DscProtocol.HealthLine
import DscProtocol.LiquidationSpec
import DscProtocol.Commutation
import DscProtocol.RoundTrip
import DscProtocol.Reentrancy
import DscProtocol.HealthViews
import DscProtocol.VaultCalls
import DscProtocol.Indexer
import DscProtocol.Wealth
import DscProtocol.Refusals
import DscProtocol.Instalments
import DscProtocol.ForcedEther
import DscProtocol.RefusingTokens
import DscProtocol.Campaign
import DscProtocol.Shortfall
import DscProtocol.LocalNetwork
import DscProtocol.CoinLedger
