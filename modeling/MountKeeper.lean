import MountKeeper.Main
import MountKeeper.Proofs.PidFiles.Map
import MountKeeper.Proofs.Sessions.Delegation
import MountKeeper.Proofs.Sessions.Uniqueness
import MountKeeper.Rehearsal.Books
import MountKeeper.Rehearsal.Shell.Run
import MountKeeper.Proofs.BootService.Requests
import MountKeeper.Proofs.BootService.Stopping
import MountKeeper.Proofs.Instances.Boot
import MountKeeper.Proofs.BootService.Starting
import MountKeeper.Proofs.Sessions.Watched
import MountKeeper.Proofs.Refusing
import MountKeeper.Proofs.Sessions.Harmless
import MountKeeper.Proofs.Sessions.Books
import MountKeeper.Proofs.Sessions.Interleaving
import MountKeeper.Proofs.PidFiles.OneKey
import MountKeeper.Proofs.Sessions.Overtaking
import MountKeeper.Proofs.Launcher.Language
import MountKeeper.Proofs.Launcher.Listing
import MountKeeper.Proofs.Sessions.Liveness
import MountKeeper.Proofs.Sessions.Spelling
import MountKeeper.Proofs.BootService.Reporting
import MountKeeper.Proofs.MountTable.Listing
import MountKeeper.Proofs.Disk.Change
import MountKeeper.Proofs.Remount.Units
import MountKeeper.Proofs.Sessions.Separation
import MountKeeper.Proofs.Sessions.Sight
import MountKeeper.Proofs.Sessions.Reclaiming
import MountKeeper.Proofs.Sessions.TakingDown
import MountKeeper.Proofs.Text.Numeral
import MountKeeper.Proofs.Configuration.Document
import MountKeeper.Proofs.FuseOption
import MountKeeper.Proofs.CommandLine.MountWords
import MountKeeper.Proofs.Expansion
import MountKeeper.Proofs.MountAll.HandingOn
import MountKeeper.Proofs.Sessions.Sweeping
import MountKeeper.Proofs.Text.Utf8
import MountKeeper.Proofs.PidFiles.RoundTrip
import MountKeeper.Proofs.Instances.Representation
import MountKeeper.Proofs.Sessions.Handover
import MountKeeper.Proofs.Configuration.OwnEntries
import MountKeeper.Proofs.Binary64
import MountKeeper.Proofs.Duration
import MountKeeper.Proofs.Sessions.Deeds
import MountKeeper.Proofs.Sessions.CleaningUp
import MountKeeper.Proofs.Configuration.Rewriting
import MountKeeper.Proofs.MountAll.Batch
import MountKeeper.Proofs.Log
import MountKeeper.Proofs.Remount.Reading
import MountKeeper.Proofs.HealthMonitor.SwitchingOff
import MountKeeper.Proofs.Text.Piece
import MountKeeper.Proofs.HealthMonitor.Listing
import MountKeeper.Proofs.Disk.Contents
import MountKeeper.Proofs.Readiness
import MountKeeper.Proofs.Remount.Installing
import MountKeeper.Proofs.MountTable.Escapes
import MountKeeper.Proofs.HomeDirectory
import MountKeeper.Proofs.UnmountTools
import MountKeeper.Proofs.MountTable.ForeignLines
import MountKeeper.Proofs.Sessions.NormalPaths
import MountKeeper.Proofs.Sessions.AskedByPath
import MountKeeper.Proofs.Pattern
import MountKeeper.Proofs.Rehearsal.Shell
