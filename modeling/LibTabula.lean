import LibTabula.PoolClients
import LibTabula.MySet
import LibTabula.TemplateHistory
import LibTabula.ExecutionAgreement
import LibTabula.AllOrNothing
import LibTabula.DateTime
import LibTabula.RefCounted
import LibTabula.TemplateGrammar
import LibTabula.DriverOptions
import LibTabula.SsqlsCompare
import LibTabula.ExceptionFlags
import LibTabula.AutoReset
import LibTabula.Regeneration
import LibTabula.InsertPolicies
import LibTabula.Manipulators
import LibTabula.QueryReset
import LibTabula.PoolGrabs
import LibTabula.OptionCalls
import LibTabula.StatementBuilders
import LibTabula.UpdateMeaning
import LibTabula.StringConv
import LibTabula.Foundation.Terminated
import LibTabula.StringCompare
import LibTabula.AdapterCompare
import LibTabula.DateTimeBounds
import LibTabula.DateTimeOrder
import LibTabula.DateTimePadding
import LibTabula.FieldNames
import LibTabula.Foundation.Joining
import LibTabula.ValueLists
import LibTabula.CreateVector
import LibTabula.SsqlsLists
import LibTabula.Foundation.Occurrence
import LibTabula.TcpAddress
import LibTabula.Connecting
import LibTabula.SsqlsPopulate
import LibTabula.SsqlsAttributes
import LibTabula.Directories
import LibTabula.ParseHistory
import LibTabula.LocaleText
import LibTabula.DateTimeLocale
import LibTabula.QuoteAgreement
import LibTabula.TinyInt
import LibTabula.MissingBuffers
import LibTabula.Foundation.Keyed
import LibTabula.TypeIdentity
import LibTabula.Foundation.MaximalRuns
import LibTabula.Tokenizing
import LibTabula.Foundation.SingleBit
import LibTabula.ClientFlags
import LibTabula.Foundation.Locking
import LibTabula.PoolAccesses
import LibTabula.PoolThreads
import LibTabula.ScopedConnections
import LibTabula.Foundation.OptionWords
import LibTabula.GetOpt
import LibTabula.CommandLines
import LibTabula.ExamplesCommandLine
import LibTabula.SsqlsxlatCommandLine
import LibTabula.SsqlsxlatMain
import LibTabula.SsqlsxlatOutput
import LibTabula.Foundation.Owners
import LibTabula.ConnectionLifetimes
import LibTabula.ConnectionCopies
import LibTabula.MySQLOptions
import LibTabula.MySQLOptionRuns
import LibTabula.Foundation.SelfDelimiting
import LibTabula.SqlInsertions
import LibTabula.SsqlsObjects
import LibTabula.SsqlsLiterals
import LibTabula.InsertedRows
import LibTabula.InsertedRoundTrip
import LibTabula.Foundation.AnswerLine
import LibTabula.MultiResults
import LibTabula.MultiResultCalls
import LibTabula.MultiResultRuns
import LibTabula.MultipleResults
