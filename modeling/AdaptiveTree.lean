import AdaptiveTree.Arithmetic
import AdaptiveTree.Config.Moment
import AdaptiveTree.Config.Reader
import AdaptiveTree.Config.Settings
import AdaptiveTree.Config.Toml
import AdaptiveTree.Context
import AdaptiveTree.Exec.Binary
import AdaptiveTree.Exec.Channel
import AdaptiveTree.Exec.Element
import AdaptiveTree.Exec.ListFormat
import AdaptiveTree.Exec.Machine
import AdaptiveTree.Exec.Match
import AdaptiveTree.Exec.Run
import AdaptiveTree.Exec.Write
import AdaptiveTree.Fault
import AdaptiveTree.Frame
import AdaptiveTree.Handle
import AdaptiveTree.Heap
import AdaptiveTree.Key
import AdaptiveTree.Kind
import AdaptiveTree.Locale.Data
import AdaptiveTree.Locale.ListFormat
import AdaptiveTree.Locale.Making
import AdaptiveTree.Locale.Tag
import AdaptiveTree.Node.Basic
import AdaptiveTree.Node.Build
import AdaptiveTree.Node.Instrument
import AdaptiveTree.Node.Meta
import AdaptiveTree.Node.Text
import AdaptiveTree.Number.Exact
import AdaptiveTree.Number.Reading
import AdaptiveTree.Number.Shortest
import AdaptiveTree.Number.Text
import AdaptiveTree.Object.Basic
import AdaptiveTree.Object.Table
import AdaptiveTree.Pattern.AsciiClasses
import AdaptiveTree.Pattern.Basic
import AdaptiveTree.Pattern.Cache
import AdaptiveTree.Pattern.Flags
import AdaptiveTree.Profile
import AdaptiveTree.Proofs.Activation
import AdaptiveTree.Proofs.Arithmetic
import AdaptiveTree.Proofs.CachedIndex
import AdaptiveTree.Proofs.Canon
import AdaptiveTree.Proofs.Children
import AdaptiveTree.Proofs.Commutation
import AdaptiveTree.Proofs.Compound
import AdaptiveTree.Proofs.Exec.Alike
import AdaptiveTree.Proofs.Exec.Congruence
import AdaptiveTree.Proofs.Exec.Erase
import AdaptiveTree.Proofs.Exec.Exact
import AdaptiveTree.Proofs.Exec.InStep
import AdaptiveTree.Proofs.Exec.Lockstep
import AdaptiveTree.Proofs.Exec.Meaning
import AdaptiveTree.Proofs.Exec.Mirror
import AdaptiveTree.Proofs.Exec.Script
import AdaptiveTree.Proofs.Exec.Simulation
import AdaptiveTree.Proofs.Exec.Trail
import AdaptiveTree.Proofs.IndexEntry
import AdaptiveTree.Proofs.Instrument
import AdaptiveTree.Proofs.Instrument.Insertion
import AdaptiveTree.Proofs.Instrument.Union
import AdaptiveTree.Proofs.Integrity
import AdaptiveTree.Proofs.Key
import AdaptiveTree.Proofs.Locale.Joining
import AdaptiveTree.Proofs.Locale.Lookup
import AdaptiveTree.Proofs.Locale.Making
import AdaptiveTree.Proofs.Locale.Requested
import AdaptiveTree.Proofs.Locale.Tag
import AdaptiveTree.Proofs.Locality
import AdaptiveTree.Proofs.Nesting
import AdaptiveTree.Proofs.Number.Arithmetic
import AdaptiveTree.Proofs.Number.Digits
import AdaptiveTree.Proofs.Number.Inexact
import AdaptiveTree.Proofs.Number.Integer
import AdaptiveTree.Proofs.Number.Nearest
import AdaptiveTree.Proofs.Number.Rounding
import AdaptiveTree.Proofs.Number.Shortest
import AdaptiveTree.Proofs.Number.Spelling
import AdaptiveTree.Proofs.Object.Arrays
import AdaptiveTree.Proofs.Object.Checked
import AdaptiveTree.Proofs.Object.Layout
import AdaptiveTree.Proofs.Object.Map
import AdaptiveTree.Proofs.Object.Text
import AdaptiveTree.Proofs.Object.Values
import AdaptiveTree.Proofs.Pattern.Bracket
import AdaptiveTree.Proofs.Pattern.Cache
import AdaptiveTree.Proofs.Pattern.Flags
import AdaptiveTree.Proofs.Pattern.Token
import AdaptiveTree.Proofs.Reflect
import AdaptiveTree.Proofs.Rename
import AdaptiveTree.Proofs.Respecialization
import AdaptiveTree.Proofs.Slots
import AdaptiveTree.Proofs.Speculation
import AdaptiveTree.Proofs.Strictness
import AdaptiveTree.Regex.Automaton
import AdaptiveTree.Regex.ByteSequence
import AdaptiveTree.Regex.CharClass
import AdaptiveTree.Regex.Expr
import AdaptiveTree.Regex.Mode
import AdaptiveTree.Regex.Program
import AdaptiveTree.Regex.Reader
import AdaptiveTree.Regex.Search
import AdaptiveTree.Regex.Written
import AdaptiveTree.Routine
import AdaptiveTree.Text.Blank
import AdaptiveTree.Text.CaseFold
import AdaptiveTree.Text.Letter
import AdaptiveTree.Text.Newcomer
import AdaptiveTree.Text.Offset
import AdaptiveTree.Text.Property.Age
import AdaptiveTree.Text.Property.Category
import AdaptiveTree.Text.Property.Derived
import AdaptiveTree.Text.Property.Listed
import AdaptiveTree.Text.Property.Query
import AdaptiveTree.Text.Property.Script
import AdaptiveTree.Text.Property.ScriptExtension
import AdaptiveTree.Text.Property.Segmentation
import AdaptiveTree.Text.Quoted
import AdaptiveTree.Text.Ranges
import AdaptiveTree.Text.Unprintable
import AdaptiveTree.Text.WordCharacter
import AdaptiveTree.Value
