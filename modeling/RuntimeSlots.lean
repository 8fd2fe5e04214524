import RuntimeSlots.Address
import RuntimeSlots.Address.Book
import RuntimeSlots.Address.Table
import RuntimeSlots.Archive.Header
import RuntimeSlots.Archive.Members
import RuntimeSlots.Audit
import RuntimeSlots.Audit.File
import RuntimeSlots.Bytes
import RuntimeSlots.Coff.File
import RuntimeSlots.Coff.SymbolTable
import RuntimeSlots.Command.Basic
import RuntimeSlots.Command.Help
import RuntimeSlots.Command.Progress
import RuntimeSlots.Command.Reader
import RuntimeSlots.Command.Words
import RuntimeSlots.Elf.Fault
import RuntimeSlots.Elf.File
import RuntimeSlots.Elf.Header
import RuntimeSlots.Elf.Section
import RuntimeSlots.Elf.SymbolTable
import RuntimeSlots.Elf.Versions
import RuntimeSlots.File.Opening
import RuntimeSlots.File.Tree
import RuntimeSlots.Linkage
import RuntimeSlots.Log.FieldValue
import RuntimeSlots.Log.Filter
import RuntimeSlots.Log.Record
import RuntimeSlots.Main
import RuntimeSlots.ObjectFile.Basic
import RuntimeSlots.ObjectFile.Reader
import RuntimeSlots.Pattern
import RuntimeSlots.Pattern.ClassReader
import RuntimeSlots.Pattern.Escape
import RuntimeSlots.Pattern.Fault
import RuntimeSlots.Pattern.Nesting
import RuntimeSlots.Pattern.Place
import RuntimeSlots.Pattern.Reader
import RuntimeSlots.Pattern.Scanner
import RuntimeSlots.Pattern.Support
import RuntimeSlots.Pattern.Syntax
import RuntimeSlots.Pe.Exports
import RuntimeSlots.Pe.File
import RuntimeSlots.Pe.Header
import RuntimeSlots.Pe.Imports
import RuntimeSlots.Proofs.Address.Book
import RuntimeSlots.Proofs.Address.Contents
import RuntimeSlots.Proofs.Address.Convention
import RuntimeSlots.Proofs.Address.Handshake
import RuntimeSlots.Proofs.Address.Table
import RuntimeSlots.Proofs.Archive.Extent
import RuntimeSlots.Proofs.Archive.Field
import RuntimeSlots.Proofs.Archive.Form
import RuntimeSlots.Proofs.Archive.Frame
import RuntimeSlots.Proofs.Archive.Name
import RuntimeSlots.Proofs.Archive.Plain
import RuntimeSlots.Proofs.Archive.Start
import RuntimeSlots.Proofs.Archive.Truncation
import RuntimeSlots.Proofs.Archive.Walk
import RuntimeSlots.Proofs.Audit.CoffObject
import RuntimeSlots.Proofs.Audit.ElfObject
import RuntimeSlots.Proofs.Audit.Forms
import RuntimeSlots.Proofs.Audit.Gathering
import RuntimeSlots.Proofs.Audit.Merging
import RuntimeSlots.Proofs.Audit.ObjectFile
import RuntimeSlots.Proofs.Audit.PeImage
import RuntimeSlots.Proofs.Audit.Transcript
import RuntimeSlots.Proofs.Audit.Truncation
import RuntimeSlots.Proofs.Audit.Verdict
import RuntimeSlots.Proofs.Bytes.Numbers
import RuntimeSlots.Proofs.Bytes.Ranges
import RuntimeSlots.Proofs.Bytes.Strings
import RuntimeSlots.Proofs.Coff.ReadBack
import RuntimeSlots.Proofs.Coff.Written
import RuntimeSlots.Proofs.Command.Inspecting
import RuntimeSlots.Proofs.Elf.ReadBack
import RuntimeSlots.Proofs.File.Tree
import RuntimeSlots.Proofs.Linkage
import RuntimeSlots.Proofs.Log.Record
import RuntimeSlots.Proofs.ObjectFile.Formats
import RuntimeSlots.Proofs.Pe.ReadBack
import RuntimeSlots.Proofs.Pe.Written
import RuntimeSlots.Proofs.Text.Ascii
import RuntimeSlots.Proofs.Tool.Inspection
import RuntimeSlots.Proofs.Tool.Records
import RuntimeSlots.Report
import RuntimeSlots.Slot
import RuntimeSlots.Text.Alphanumeric
import RuntimeSlots.Text.ByteOffset
import RuntimeSlots.Text.Lines
import RuntimeSlots.Text.Terminal
import RuntimeSlots.Text.Utf8
import RuntimeSlots.Tool
import RuntimeSlots.Tool.Outcome
import RuntimeSlots.Tool.Run
