import UsbHost.Journal
import UsbHost.Main
import UsbHost.Proofs.Bridge.Answers
import UsbHost.Proofs.Command.ReadDescriptor
import UsbHost.Proofs.Descriptor.ActiveConfig
import UsbHost.Proofs.Descriptor.Recovery
import UsbHost.Proofs.Document.Rearranging
import UsbHost.Proofs.Document.RoundTrip
import UsbHost.Proofs.Filter.Matching
import UsbHost.Proofs.Platform.Configurations
import UsbHost.Proofs.Platform.ControlRequests
import UsbHost.Proofs.Platform.Identity
import UsbHost.Proofs.Session.Callbacks
import UsbHost.Proofs.Session.Directions
import UsbHost.Proofs.Session.Finishing
import UsbHost.Proofs.Session.Freeing
import UsbHost.Proofs.Session.Homes
import UsbHost.Proofs.Session.Lengths
import UsbHost.Proofs.Session.Separation
import UsbHost.Proofs.Session.Submissions
import UsbHost.Proofs.Settings.Saving
import UsbHost.Proofs.Tracker.Custody
import UsbHost.Proofs.Tracker.Outbox
import UsbHost.Proofs.Worker.Claims
import UsbHost.Proofs.Worker.Enumerations
import UsbHost.Record.Sample
import UsbHost.Rehearsal
