import DeckDump.Main
import DeckDump.Proofs.Script
import DeckDump.Proofs.Sink
import DeckDump.Proofs.Bytes
import DeckDump.Proofs.Record.Atom
import DeckDump.Proofs.Record.Forest
import DeckDump.Proofs.Dump.Follows
import DeckDump.Proofs.PropertySet.Script
import DeckDump.Proofs.Dump.Script
import DeckDump.Proofs.Record.Cut
import DeckDump.Proofs.Dump.FailingSink
import DeckDump.Proofs.Dump.Flags
import DeckDump.Proofs.Dump.Recorded
import DeckDump.Proofs.Dump.Policy
import DeckDump.Proofs.Compound.Reachable
import DeckDump.Proofs.PropertySet.Value
import DeckDump.Proofs.Dump.Text
import DeckDump.Proofs.PropertySet.Layout
import DeckDump.Proofs.Compound.Payload
import DeckDump.Proofs.Compound.Lookup
import DeckDump.Proofs.Kept
import DeckDump.Proofs.Compound.Chain
import DeckDump.Proofs.Record.Local
import DeckDump.Proofs.Dump.Verdict
import DeckDump.Proofs.Compound.Opening
import DeckDump.Proofs.CommandLine.Wording
import DeckDump.Proofs.CommandLine.Exit
import DeckDump.Proofs.CommandLine.Filter
import DeckDump.Proofs.Compound.Sector
import DeckDump.Proofs.Compound.Difat
import DeckDump.Proofs.Encoded
import DeckDump.Proofs.Compound.HeaderField
import DeckDump.Proofs.Compound.Tiling
import DeckDump.Proofs.Compound.EntryPlace
import DeckDump.Proofs.Compound.StoredEntry
import DeckDump.Proofs.PropertySet.Encoding
import DeckDump.Proofs.Text.Controls
import DeckDump.Proofs.Text.Lines
import DeckDump.Proofs.Text.Utf16
import DeckDump.Proofs.Report.HexDump
import DeckDump.Proofs.PropertySet.Lines
import DeckDump.Proofs.Record.CurrentUser
import DeckDump.Proofs.Record.Lines
import DeckDump.Proofs.Record.Turns
import DeckDump.Proofs.Dump.Lines
