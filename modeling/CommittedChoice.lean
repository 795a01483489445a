import CommittedChoice.Failure
import CommittedChoice.Grammar.Run
import CommittedChoice.Unicode.Classes
import CommittedChoice.Csv
import CommittedChoice.Grammar.Characters
import CommittedChoice.Json.Syntax
import CommittedChoice.Script.Labels
import CommittedChoice.Script.Pipeline
import CommittedChoice.Script.Session
import CommittedChoice.Script.StackProgram
import CommittedChoice.Grammar.Fuel
import CommittedChoice.Parser.Inversion
import CommittedChoice.Proofs.Locality.Trip
import CommittedChoice.Proofs.Locality.Basic
import CommittedChoice.Proofs.Locality.Choice
import CommittedChoice.Proofs.Locality.Loops
import CommittedChoice.Proofs.Locality.Grammar
import CommittedChoice.Proofs.Locality.Again
import CommittedChoice.Proofs.Reachable.Invariant
import CommittedChoice.Proofs.Reading.Pieces
import CommittedChoice.Proofs.Reading.Takes
import CommittedChoice.Proofs.Reading.Yields
import CommittedChoice.Proofs.Reading.Characters
import CommittedChoice.Proofs.Json.Derivation
import CommittedChoice.Proofs.Json.Surrogates
import CommittedChoice.Proofs.Json.Members
import CommittedChoice.Proofs.Json.Strings
import CommittedChoice.Proofs.Json.Numbers
import CommittedChoice.Proofs.Json.Completeness
import CommittedChoice.Proofs.Json.Soundness
import CommittedChoice.Proofs.Json.Serialization
import CommittedChoice.Proofs.Diagnosis.Events
import CommittedChoice.Proofs.Diagnosis.Track
import CommittedChoice.Proofs.Diagnosis.Logs
import CommittedChoice.Proofs.Diagnosis.Guarded
import CommittedChoice.Proofs.Diagnosis.Exact
import CommittedChoice.Proofs.Reading.Halts
import CommittedChoice.Proofs.Reading.Unless
import CommittedChoice.Proofs.Csv.Writing
import CommittedChoice.Proofs.Csv.Completeness
import CommittedChoice.Proofs.Csv.Soundness
import CommittedChoice.Proofs.Csv.Rejection
import CommittedChoice.Proofs.Diagnosis.Explored
import CommittedChoice.Proofs.Diagnosis.Mended
import CommittedChoice.Proofs.Json.Forms
import CommittedChoice.Proofs.Json.Loose
import CommittedChoice.Proofs.Json.Exploration
import CommittedChoice.Proofs.Json.Termination
import CommittedChoice.Proofs.Json.Location
import CommittedChoice.Grammar.Limit
import CommittedChoice.Proofs.Lists.Alternation
import CommittedChoice.Proofs.Labels.Agreement
import CommittedChoice.Proofs.Labels.Unlabelled
import CommittedChoice.Proofs.Labels.Labelled
import CommittedChoice.Proofs.Choice.Flat
import CommittedChoice.Proofs.Choice.Alternatives
import CommittedChoice.Proofs.Matching.Follows
import CommittedChoice.Proofs.Matching.Attempted
import CommittedChoice.Proofs.Sequencing.Laws
import CommittedChoice.Proofs.Lists.Repetition
import CommittedChoice.Proofs.Lists.Until
import CommittedChoice.Proofs.Json.Decoding
import CommittedChoice.Proofs.Json.Truncation
import CommittedChoice.Proofs.Reading.Contents
import CommittedChoice.Proofs.Reading.Shortening
import CommittedChoice.Proofs.Reading.Progress
import CommittedChoice.Proofs.Reading.Literals
import CommittedChoice.Proofs.Derived.Absorption
import CommittedChoice.Proofs.Derived.Kernel
import CommittedChoice.Proofs.Reading.Consumption
import CommittedChoice.Proofs.Reading.Founded
import CommittedChoice.Proofs.Reading.Entries
import CommittedChoice.Proofs.Csv.Termination
import CommittedChoice.Proofs.Formats.Termination
import CommittedChoice.Proofs.Formats.Labels
import CommittedChoice.Proofs.Script.Labels
import CommittedChoice.Proofs.Labels.Band
