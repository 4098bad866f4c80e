import ForexJournal.Decimal.Basic
import ForexJournal.Decimal.Arith
import ForexJournal.Decimal.Text
import ForexJournal.Text.Blank
import ForexJournal.Time.Instant
import ForexJournal.Uuid
import ForexJournal.Json
import ForexJournal.Error
import ForexJournal.Instrument
import ForexJournal.Trade.Basic
import ForexJournal.Trade.Execution
import ForexJournal.Trade.Lifecycle
import ForexJournal.Trade.Risk
import ForexJournal.Trade.Plan
import ForexJournal.Market.Candle
import ForexJournal.Market.Ema
import ForexJournal.Market.Swing
import ForexJournal.Market.Indicators
import ForexJournal.Signal.Rule
import ForexJournal.Signal.Evaluation
import ForexJournal.Session
import ForexJournal.Retry
import ForexJournal.Cli.Arguments
import ForexJournal.Cli.Command
import ForexJournal.Cli.Help
import ForexJournal.Cli.Run
import ForexJournal.Cli.World
import ForexJournal.Config.Connection
import ForexJournal.Config.Ini
import ForexJournal.Config.Settings
import ForexJournal.Database.Binary64
import ForexJournal.Database.File
import ForexJournal.Database.Schema
import ForexJournal.Database.Statement.Run
import ForexJournal.Database.Statement.Syntax
import ForexJournal.Database.Statement.Token
import ForexJournal.Database.Table
import ForexJournal.Database.Value
import ForexJournal.Main
import ForexJournal.Market.CandleFile
import ForexJournal.Service.Evaluation
import ForexJournal.Service.Journal
import ForexJournal.Store.Codec
import ForexJournal.Store.Journal
import ForexJournal.Store.MarketData
import ForexJournal.Store.Rows
import ForexJournal.Text.Csv
import ForexJournal.Text.Lowercase
import ForexJournal.Proofs.History
import ForexJournal.Proofs.Lifecycle
import ForexJournal.Proofs.Retry
import ForexJournal.Proofs.Writes
import ForexJournal.Proofs.Calendar
import ForexJournal.Proofs.InstantText
import ForexJournal.Proofs.DecimalText
import ForexJournal.Proofs.UuidText
import ForexJournal.Proofs.Tables
import ForexJournal.Proofs.StoredRows
import ForexJournal.Proofs.JournalRows
import ForexJournal.Proofs.TrendMirror
import ForexJournal.Proofs.StampOrder
import ForexJournal.Proofs.MarketRows
import ForexJournal.Proofs.ReadBack
import ForexJournal.Proofs.DecimalRounding
import ForexJournal.Proofs.DecimalQuotient
import ForexJournal.Proofs.NoOverflow
import ForexJournal.Proofs.SwingPoints
import ForexJournal.Proofs.IndicatorHistory
import ForexJournal.Proofs.Reachable
import ForexJournal.Proofs.LiveTrades
import ForexJournal.Proofs.FillHistory
import ForexJournal.Proofs.TradeHistories
import ForexJournal.Proofs.SizeCheck
import ForexJournal.Proofs.DecimalSign
import ForexJournal.Proofs.DecimalValue
import ForexJournal.Proofs.Profit
import ForexJournal.Proofs.AverageRange
import ForexJournal.Proofs.DecimalPrecision
import ForexJournal.Proofs.PositionSizing
import ForexJournal.Proofs.RuleEvaluation
import ForexJournal.Proofs.TradeGeometry
import ForexJournal.Proofs.EntrySlippage
import ForexJournal.Proofs.SettingsRange
import ForexJournal.Proofs.CandleGeometry
import ForexJournal.Proofs.UniqueKeys
import ForexJournal.Proofs.BatchCounts
import ForexJournal.Proofs.Reevaluation
import ForexJournal.Proofs.Confidence
import ForexJournal.Proofs.RulesByCode
import ForexJournal.Proofs.CandleFileReading
