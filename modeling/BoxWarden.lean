import BoxWarden.Main
import BoxWarden.Proofs.Run
import BoxWarden.Proofs.Deeds
import BoxWarden.Proofs.Text.Lines
import BoxWarden.Proofs.Text.LetterCase
import BoxWarden.Proofs.Text.Trim
import BoxWarden.Proofs.Grant.Codec
import BoxWarden.Proofs.Grant.Reading
import BoxWarden.Proofs.Shell.RoundTrip
import BoxWarden.Proofs.Shell.Line
import BoxWarden.Proofs.Disk.Place
import BoxWarden.Proofs.Disk.Change
import BoxWarden.Proofs.Disk.Content
import BoxWarden.Proofs.Disk.Directories
import BoxWarden.Proofs.Disk.Replacement
import BoxWarden.Proofs.Store.Text
import BoxWarden.Proofs.Store.File
import BoxWarden.Proofs.Store.Call
import BoxWarden.Proofs.Store.Refusal
import BoxWarden.Proofs.Store.Ledger
import BoxWarden.Proofs.Store.Torn
import BoxWarden.Proofs.Homes
import BoxWarden.Proofs.Store.Foreign
import BoxWarden.Proofs.Compile.Fold
import BoxWarden.Proofs.Compile.Isolation
import BoxWarden.Proofs.Compile.Effect
import BoxWarden.Proofs.Compile.Inert
import BoxWarden.Proofs.Compile.Spelling
import BoxWarden.Proofs.IsolationSeries
import BoxWarden.Proofs.Compile.Host
import BoxWarden.Proofs.Command.Reading
import BoxWarden.Proofs.Command.Plan
import BoxWarden.Proofs.Compile.Records
import BoxWarden.Proofs.Compile.OneLine
import BoxWarden.Proofs.Markup.Reading
import BoxWarden.Proofs.Command.Bystander
import BoxWarden.Proofs.Command.Tool
import BoxWarden.Proofs.Command.Recreate
import BoxWarden.Proofs.Command.DryRun
import BoxWarden.Proofs.Command.Unplanned
import BoxWarden.Proofs.Markup.Summary
import BoxWarden.Proofs.Summary.Reading
import BoxWarden.Proofs.Summary.Command
import BoxWarden.Proofs.Editor.Step
import BoxWarden.Proofs.Editor.Run
import BoxWarden.Proofs.Editor.View
import BoxWarden.Proofs.Editor.Calls
import BoxWarden.Proofs.CommandLine.ExitCode
import BoxWarden.Proofs.CommandLine.Create
import BoxWarden.Proofs.CommandLine.Image
import BoxWarden.Proofs.CommandLine.Arguments
import BoxWarden.Proofs.CommandLine.PathCheck
import BoxWarden.Proofs.CommandLine.BoundPath
import BoxWarden.Proofs.CommandLine.TextEditor
import BoxWarden.Proofs.CommandLine.Log
import BoxWarden.Proofs.CommandLine.Overview
import BoxWarden.Proofs.Editor.Opening
import BoxWarden.Proofs.Listing
import BoxWarden.Proofs.Path
import BoxWarden.Proofs.UserHome
import BoxWarden.Proofs.Containment
import BoxWarden.Proofs.Store.Revocation
import BoxWarden.Proofs.Disk.Parents
import BoxWarden.Proofs.Disk.Tidy
import BoxWarden.Proofs.HomeGround
import BoxWarden.Proofs.HomeSeries
import BoxWarden.Proofs.Disk.Beside
import BoxWarden.Proofs.Store.Beside
import BoxWarden.Proofs.CommandLine.Verbatim
import BoxWarden.Proofs.Command.Shown
