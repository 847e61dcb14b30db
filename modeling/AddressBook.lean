import AddressBook.Address.Input
import AddressBook.Book
import AddressBook.Bytes.Hex
import AddressBook.Config.Launch
import AddressBook.Config.Range
import AddressBook.Config.Server
import AddressBook.Http.Handlers
import AddressBook.Listing.Command
import AddressBook.Main
import AddressBook.Moment.Input
import AddressBook.Session.Run
import AddressBook.Proofs.Base58
import AddressBook.Proofs.Address.Grammar
import AddressBook.Proofs.Address.RoundTrip
import AddressBook.Proofs.Address.Canonical
import AddressBook.Proofs.Session
import AddressBook.Proofs.Store.Sound
import AddressBook.Proofs.Store.Growth
import AddressBook.Proofs.Json.RoundTrip
import AddressBook.Proofs.Keys
import AddressBook.Proofs.Book.Reachable
import AddressBook.Proofs.Book.Writes
import AddressBook.Proofs.Book.Runs
import AddressBook.Proofs.Tokens
import AddressBook.Proofs.Http.Answering
import AddressBook.Proofs.Http.Gate
import AddressBook.Proofs.View
import AddressBook.Proofs.Http.Separation
import AddressBook.Proofs.Http.Body
import AddressBook.Proofs.Http.Linked
import AddressBook.Proofs.Moment.Calendar
import AddressBook.Proofs.Moment.DateTime
import AddressBook.Proofs.Moment.Digits
import AddressBook.Proofs.Moment.Iso
import AddressBook.Proofs.Moment.Stamp
import AddressBook.Proofs.Moment.UnixTime
import AddressBook.Proofs.Events
import AddressBook.Proofs.Book.History
import AddressBook.Proofs.Http.Events
import AddressBook.Proofs.Http.Dispatch
import AddressBook.Proofs.Http.Refusals
import AddressBook.Proofs.Config.Vault
import AddressBook.Proofs.Config.Format
import AddressBook.Proofs.Config.Lookup
import AddressBook.Proofs.Config.Recency
import AddressBook.Proofs.Config.Access
import AddressBook.Proofs.Http.Repetition
import AddressBook.Proofs.Http.Secrecy
import AddressBook.Proofs.Http.Audit
import AddressBook.Proofs.Listing
import AddressBook.Proofs.Chronology
import AddressBook.Proofs.Window
import AddressBook.Proofs.Payload
import AddressBook.Proofs.Config.Spelling
import AddressBook.Proofs.Config.LogLine
import AddressBook.Proofs.Listing.Lines
