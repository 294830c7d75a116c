import SmartCard.Bytes.Reader
import SmartCard.Card
import SmartCard.File.Record
import SmartCard.File.Settings
import SmartCard.FixedAnswer
import SmartCard.Json.Form
import SmartCard.Outline
import SmartCard.Proofs.Account
import SmartCard.Proofs.Apdu
import SmartCard.Proofs.Card
import SmartCard.Proofs.Fault
import SmartCard.Proofs.FixedAnswer
import SmartCard.Proofs.Frame
import SmartCard.Proofs.Hex
import SmartCard.Proofs.Json
import SmartCard.Proofs.Json.Form
import SmartCard.Proofs.Message
import SmartCard.Proofs.Position
import SmartCard.Proofs.Position.Outcome
import SmartCard.Proofs.Reader
import SmartCard.Proofs.Record
import SmartCard.Proofs.Request
import SmartCard.Proofs.Rights
import SmartCard.Proofs.Sentence
import SmartCard.Proofs.Session.Account
import SmartCard.Proofs.Session.Log
import SmartCard.Proofs.Session.Order
import SmartCard.Proofs.Session.Prepared
import SmartCard.Proofs.Session.Queue
import SmartCard.Proofs.Session.Refusal
import SmartCard.Proofs.Session.Routes
import SmartCard.Proofs.Session.Sent
import SmartCard.Proofs.Significance
import SmartCard.Proofs.Simulation
import SmartCard.Proofs.Stream
import SmartCard.Proofs.Summary
import SmartCard.Proofs.Truncation
import SmartCard.Proofs.Verdict
import SmartCard.Session
