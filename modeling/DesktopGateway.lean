import DesktopGateway.Client.Call
import DesktopGateway.Files.Services
import DesktopGateway.Link.Duplex
import DesktopGateway.Main
import DesktopGateway.Monitoring.Page
import DesktopGateway.Proofs.Files.FailedUpload
import DesktopGateway.Proofs.Files.Deposit
import DesktopGateway.Proofs.Files.LexicalPath
import DesktopGateway.Proofs.Files.Response
import DesktopGateway.Proofs.Files.SharedHome
import DesktopGateway.Proofs.Files.StoredUpload
import DesktopGateway.Proofs.Files.UploadReach
import DesktopGateway.Proofs.Wire.Parcel
import DesktopGateway.Serving.DisplayStream
import DesktopGateway.Serving.Forwarding
import DesktopGateway.Serving.Reception
import DesktopGateway.Serving.SoundStream
import DesktopGateway.Sound.Session
import DesktopGateway.Trust.Issuing
import DesktopGateway.Link.Poll
import DesktopGateway.Link.Passing
import DesktopGateway.Proofs.Link.Handing
import DesktopGateway.Proofs.Link.Traffic
import DesktopGateway.Proofs.Link.Operations
import DesktopGateway.Proofs.Link.Runs
import DesktopGateway.Proofs.Link.Draining
import DesktopGateway.Proofs.Link.Chunking
import DesktopGateway.Proofs.Link.Passing
import DesktopGateway.Proofs.Link.Rejected
import DesktopGateway.Files.Stage
import DesktopGateway.Files.Reader
import DesktopGateway.Proofs.Files.Stage
import DesktopGateway.Proofs.Files.Reader
import DesktopGateway.Proofs.Volume.Kept
import DesktopGateway.Proofs.Files.Progress
import DesktopGateway.Proofs.Files.Crowd
import DesktopGateway.Proofs.Files.Acknowledged
import DesktopGateway.Client.Transfer
import DesktopGateway.Proofs.Client.Moves
import DesktopGateway.Proofs.Client.Transfer
import DesktopGateway.Proofs.Client.Course
import DesktopGateway.Proofs.Client.Progress
import DesktopGateway.Proofs.Client.Agreement
import DesktopGateway.Link.Hearing
import DesktopGateway.Proofs.Link.Hearing
import DesktopGateway.Proofs.Link.Surfacing
import DesktopGateway.Proofs.Files.Opening
import DesktopGateway.Proofs.Client.Fetch
import DesktopGateway.Proofs.Serving.Forwarding
import DesktopGateway.Serving.Attendance
import DesktopGateway.Serving.SoundLease
import DesktopGateway.Serving.DisplayLease
import DesktopGateway.Files.Encounter
import DesktopGateway.Proofs.Serving.Roster
import DesktopGateway.Proofs.Serving.Attendance
import DesktopGateway.Proofs.Monitoring.Series
import DesktopGateway.Proofs.Serving.Hall
import DesktopGateway.Proofs.Serving.SoundLease
import DesktopGateway.Proofs.Serving.DisplayLease
import DesktopGateway.Proofs.Serving.Release
import DesktopGateway.Proofs.Volume.Naming
import DesktopGateway.Proofs.Files.DownloadRun
import DesktopGateway.Proofs.Files.Version
import DesktopGateway.Proofs.Files.Replacing
import DesktopGateway.Proofs.Files.Encounter
import DesktopGateway.Wire.Line
import DesktopGateway.Wire.Sending
import DesktopGateway.Proofs.Wire.Window
import DesktopGateway.Proofs.Wire.Line
import DesktopGateway.Proofs.Wire.Sending
import DesktopGateway.Proofs.Files.SafeName
import DesktopGateway.Text.DocumentReader
import DesktopGateway.Proofs.Text.Document
import DesktopGateway.Files.ListingReader
import DesktopGateway.Proofs.Volume.Entries
import DesktopGateway.Proofs.Files.Listing
import DesktopGateway.Proofs.Files.ListingOrder
import DesktopGateway.Proofs.Files.ListedEntry
import DesktopGateway.Proofs.Files.Gzip
import DesktopGateway.Proofs.Files.Tape
import DesktopGateway.Proofs.Files.Bundle
import DesktopGateway.Files.Excerpt
import DesktopGateway.Proofs.Files.ContentType
import DesktopGateway.Proofs.Text.Blank
import DesktopGateway.Proofs.Text.Upper
import DesktopGateway.Proofs.Sound.Graph
import DesktopGateway.Proofs.Sound.Devices
import DesktopGateway.Files.Visit
import DesktopGateway.Proofs.Volume.Untouched
import DesktopGateway.Proofs.Files.Visit
import DesktopGateway.Proofs.Files.ServedVisit
import DesktopGateway.Proofs.Wire.Sequence
import DesktopGateway.Proofs.Net.Address
import DesktopGateway.Proofs.Client.Gateway
import DesktopGateway.Proofs.Startup.Listening
import DesktopGateway.Proofs.Settings.Fields
import DesktopGateway.Proofs.Settings.Loading
