import FiatAccounts.Account.Basic
import FiatAccounts.Account.Leaf
import FiatAccounts.Account.Message
import FiatAccounts.Catalog.BankField
import FiatAccounts.Catalog.Country
import FiatAccounts.Catalog.Coverage
import FiatAccounts.Catalog.Currency
import FiatAccounts.Catalog.Rail
import FiatAccounts.Check.Bic
import FiatAccounts.Check.Codes
import FiatAccounts.Check.Contact
import FiatAccounts.Check.Date
import FiatAccounts.Check.Iban
import FiatAccounts.Check.Text
import FiatAccounts.Codec
import FiatAccounts.Config.Basic
import FiatAccounts.Config.Json
import FiatAccounts.Error
import FiatAccounts.Hash.Sha256
import FiatAccounts.Instrument.Bank
import FiatAccounts.Instrument.Basic
import FiatAccounts.Instrument.CountryBound
import FiatAccounts.Instrument.Flat
import FiatAccounts.Instrument.Profile
import FiatAccounts.Json.Scan
import FiatAccounts.Message.Account
import FiatAccounts.Message.Instrument
import FiatAccounts.Message.Payload
import FiatAccounts.Message.Witness
import FiatAccounts.Payload.Basic
import FiatAccounts.Payload.Fingerprint
import FiatAccounts.Payload.Message
import FiatAccounts.Proofs.Account.Consistent
import FiatAccounts.Proofs.Account.Hierarchy
import FiatAccounts.Proofs.Account.Message
import FiatAccounts.Proofs.Account.Path
import FiatAccounts.Proofs.Account.Record
import FiatAccounts.Proofs.Account.Refusal
import FiatAccounts.Proofs.Bic.Shape
import FiatAccounts.Proofs.Bic.Stored
import FiatAccounts.Proofs.Bic.Verdict
import FiatAccounts.Proofs.Catalog.Coverage
import FiatAccounts.Proofs.Catalog.Offer
import FiatAccounts.Proofs.Check.Contact
import FiatAccounts.Proofs.Check.Passed
import FiatAccounts.Proofs.Codec.Canonical
import FiatAccounts.Proofs.Codec.Extended
import FiatAccounts.Proofs.Codec.Kinds
import FiatAccounts.Proofs.Codec.Limit
import FiatAccounts.Proofs.Codec.Obtained
import FiatAccounts.Proofs.Codec.Remake
import FiatAccounts.Proofs.Codec.Room
import FiatAccounts.Proofs.Codec.RoundTrip
import FiatAccounts.Proofs.Codec.Truncation
import FiatAccounts.Proofs.Fingerprint.Bank
import FiatAccounts.Proofs.Fingerprint.Identity
import FiatAccounts.Proofs.Fingerprint.Layout
import FiatAccounts.Proofs.Fingerprint.Rule
import FiatAccounts.Proofs.Fingerprint.Separation
import FiatAccounts.Proofs.Iban.Country
import FiatAccounts.Proofs.Iban.Number
import FiatAccounts.Proofs.Iban.Shape
import FiatAccounts.Proofs.Iban.Slip
import FiatAccounts.Proofs.Iban.Stored
import FiatAccounts.Proofs.Iban.Verdict
import FiatAccounts.Proofs.Instrument.Bank
import FiatAccounts.Proofs.Instrument.Fields
import FiatAccounts.Proofs.Instrument.Room
import FiatAccounts.Proofs.Message.Faithful
import FiatAccounts.Proofs.Names
import FiatAccounts.Proofs.Outcome
import FiatAccounts.Proofs.Payload.Bank
import FiatAccounts.Proofs.Payload.Message
import FiatAccounts.Proofs.Payload.Sepa
import FiatAccounts.Proofs.Payload.Verified
import FiatAccounts.Proofs.Text.Ascii
import FiatAccounts.Proofs.Time.Millis
import FiatAccounts.Proofs.Wire.Framing
import FiatAccounts.Proofs.Wire.Lawful
import FiatAccounts.Proofs.Wire.Room
import FiatAccounts.Proofs.Wire.Spelling
import FiatAccounts.Proofs.Wire.Truncation
import FiatAccounts.Proofs.Wire.Unordered
import FiatAccounts.Proofs.Witness.Binding
import FiatAccounts.Proofs.Witness.Interchange
import FiatAccounts.Proofs.Witness.Republish
import FiatAccounts.Proofs.Witness.Request
import FiatAccounts.Proofs.Witness.Signed
import FiatAccounts.Proofs.Witness.Verify
import FiatAccounts.Text.Blank
import FiatAccounts.Text.Hex
import FiatAccounts.Text.Quoted
import FiatAccounts.Text.UpperCase
import FiatAccounts.Text.UpperTable
import FiatAccounts.Text.Utf8
import FiatAccounts.Time.Civil
import FiatAccounts.Time.Millis
import FiatAccounts.Wire.Field
import FiatAccounts.Wire.Layout
import FiatAccounts.Wire.Varint
import FiatAccounts.Witness.AgeWitness
import FiatAccounts.Witness.Signing
import FiatAccounts.Witness.Timestamp
