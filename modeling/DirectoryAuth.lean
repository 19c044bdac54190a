import DirectoryAuth.Attempt.Basic
import DirectoryAuth.Attempt.Cache
import DirectoryAuth.Attempt.History
import DirectoryAuth.Authenticator
import DirectoryAuth.Bytes
import DirectoryAuth.Calendar
import DirectoryAuth.CommandLine.Arguments
import DirectoryAuth.CommandLine.Program
import DirectoryAuth.Console.Dialogue
import DirectoryAuth.Console.Prompt
import DirectoryAuth.Coordinator
import DirectoryAuth.Credential.Basic
import DirectoryAuth.Credential.Error
import DirectoryAuth.Directory.Entry
import DirectoryAuth.Directory.Error
import DirectoryAuth.Directory.Memory
import DirectoryAuth.Dn.AttributeNames
import DirectoryAuth.Dn.Basic
import DirectoryAuth.Dn.Equality
import DirectoryAuth.Dn.Escape
import DirectoryAuth.Dn.Format
import DirectoryAuth.Dn.Parse
import DirectoryAuth.Encoding.Base64
import DirectoryAuth.Failure
import DirectoryAuth.Hash.Hmac
import DirectoryAuth.Hash.Pbkdf2
import DirectoryAuth.Hash.Sha1
import DirectoryAuth.Instant
import DirectoryAuth.Ldap.Client
import DirectoryAuth.Ldap.Filter
import DirectoryAuth.Ldap.MemoryServer
import DirectoryAuth.Ldap.Network
import DirectoryAuth.Ldap.Trace
import DirectoryAuth.Main
import DirectoryAuth.Password
import DirectoryAuth.Proofs.Attempt.Cache
import DirectoryAuth.Proofs.Attempt.CacheRun
import DirectoryAuth.Proofs.Attempt.History
import DirectoryAuth.Proofs.Attempt.HistoryRun
import DirectoryAuth.Proofs.Attempt.Shown
import DirectoryAuth.Proofs.Authenticator
import DirectoryAuth.Proofs.Bytes
import DirectoryAuth.Proofs.Console.Dialogue
import DirectoryAuth.Proofs.Console.Lines
import DirectoryAuth.Proofs.Console.Rounds
import DirectoryAuth.Proofs.Coordinator.Freshness
import DirectoryAuth.Proofs.Coordinator.Memo
import DirectoryAuth.Proofs.Coordinator.Origin
import DirectoryAuth.Proofs.Coordinator.Recall
import DirectoryAuth.Proofs.Coordinator.Run
import DirectoryAuth.Proofs.Coordinator.Secrecy
import DirectoryAuth.Proofs.Coordinator.Spacing
import DirectoryAuth.Proofs.Coordinator.Stationary
import DirectoryAuth.Proofs.Credential.Slot
import DirectoryAuth.Proofs.Credential.Text
import DirectoryAuth.Proofs.Directory.Entry
import DirectoryAuth.Proofs.Directory.Relations
import DirectoryAuth.Proofs.Dn.Authentication
import DirectoryAuth.Proofs.Dn.Equality
import DirectoryAuth.Proofs.Dn.Joining
import DirectoryAuth.Proofs.Dn.LetterCase
import DirectoryAuth.Proofs.Dn.Reading
import DirectoryAuth.Proofs.Dn.RoundTrip
import DirectoryAuth.Proofs.Dn.Scanning
import DirectoryAuth.Proofs.Dn.Tokens
import DirectoryAuth.Proofs.Encoding.Base64
import DirectoryAuth.Proofs.Except
import DirectoryAuth.Proofs.Ldap.Backing
import DirectoryAuth.Proofs.Ldap.BindName
import DirectoryAuth.Proofs.Ldap.Connections
import DirectoryAuth.Proofs.Ldap.Erasure
import DirectoryAuth.Proofs.Ldap.Filter
import DirectoryAuth.Proofs.Ldap.Invariant
import DirectoryAuth.Proofs.Ldap.Lives
import DirectoryAuth.Proofs.Ldap.Numbering
import DirectoryAuth.Proofs.Ldap.Outcome
import DirectoryAuth.Proofs.Ldap.Run
import DirectoryAuth.Proofs.Ldap.Session
import DirectoryAuth.Proofs.Ldap.StateMachine
import DirectoryAuth.Proofs.Ldap.Verdict
import DirectoryAuth.Proofs.Password
import DirectoryAuth.Proofs.Password.Longer
import DirectoryAuth.Proofs.Settings.Cache
import DirectoryAuth.Proofs.Settings.Loaders
import DirectoryAuth.Proofs.Settings.Validation
import DirectoryAuth.Proofs.StaticList
import DirectoryAuth.Proofs.StaticList.Verdict
import DirectoryAuth.Proofs.Table
import DirectoryAuth.Proofs.Text.AsciiCase
import DirectoryAuth.Proofs.Text.Lowercase
import DirectoryAuth.Proofs.Text.Split
import DirectoryAuth.Proofs.Url.Scheme
import DirectoryAuth.Settings.Basic
import DirectoryAuth.Settings.Cache
import DirectoryAuth.Settings.Document
import DirectoryAuth.Settings.Environment
import DirectoryAuth.Settings.Error
import DirectoryAuth.Settings.Ldap
import DirectoryAuth.Settings.Number
import DirectoryAuth.Settings.Properties
import DirectoryAuth.Settings.Validation
import DirectoryAuth.StaticList
import DirectoryAuth.Table
import DirectoryAuth.Text.AsciiCase
import DirectoryAuth.Text.Blank
import DirectoryAuth.Text.CaseContext
import DirectoryAuth.Text.CaseMapping
import DirectoryAuth.Text.CodeRange
import DirectoryAuth.Text.CombiningClass
import DirectoryAuth.Text.Composition
import DirectoryAuth.Text.JsonString
import DirectoryAuth.Text.Lowercase
import DirectoryAuth.Text.Mark
import DirectoryAuth.Text.Numeral
import DirectoryAuth.Text.Printable
import DirectoryAuth.Text.Quoted
import DirectoryAuth.Text.Split
import DirectoryAuth.Toml.DateTime
import DirectoryAuth.Toml.Number
import DirectoryAuth.Toml.Parser
import DirectoryAuth.Toml.Quoted
import DirectoryAuth.Toml.Scalar
import DirectoryAuth.Toml.Tree
import DirectoryAuth.Toml.Trivia
import DirectoryAuth.Toml.Value
import DirectoryAuth.Url.Basic
import DirectoryAuth.Url.Direction
import DirectoryAuth.Url.Domain
import DirectoryAuth.Url.DomainChar
import DirectoryAuth.Url.DomainImage
import DirectoryAuth.Url.Error
import DirectoryAuth.Url.Host
import DirectoryAuth.Url.IpAddress
import DirectoryAuth.Url.Joiner
import DirectoryAuth.Url.Punycode
