import WatchLink.Link.Gatt
import WatchLink.Link.Stream
import WatchLink.Main
import WatchLink.Session.Operations
import WatchLink.Proofs.Command.Delimiting
import WatchLink.Proofs.Cipher.Opening
import WatchLink.Proofs.Frame.Reading
import WatchLink.Proofs.Reassembler.Cutting
import WatchLink.Proofs.Frame.RoundTrip
import WatchLink.Proofs.Reassembler.Reads
import WatchLink.Proofs.Link.EndToEnd
import WatchLink.Proofs.Handshake.Authenticity
import WatchLink.Proofs.Session.Moves
import WatchLink.Proofs.Session.Run
import WatchLink.Proofs.Session.Nonces
import WatchLink.Proofs.Session.Receiving
import WatchLink.Proofs.Session.Batching
import WatchLink.Proofs.Session.Pairing
import WatchLink.Proofs.Upload.Run
import WatchLink.Proofs.Session.Deeds
import WatchLink.Proofs.Session.Acting
import WatchLink.Proofs.Session.Uploading
import WatchLink.Proofs.Session.Waiting
import WatchLink.Proofs.Link.BulkReading
import WatchLink.Proofs.Session.Record
import WatchLink.Proofs.Session.Delivering
import WatchLink.Proofs.Session.Installing
import WatchLink.Proofs.Session.Reporting
import WatchLink.Proofs.Session.Telling
import WatchLink.Proofs.Link.Settling
import WatchLink.Proofs.Session.Standing
import WatchLink.Proofs.Session.Agreeing
import WatchLink.Proofs.Session.Renewing
import WatchLink.Proofs.Session.Unbroken
import WatchLink.Proofs.Inbox.Waiting
import WatchLink.Proofs.Text.Listing
import WatchLink.Proofs.Preferences.Updates
import WatchLink.Proofs.Device.Menu
import WatchLink.Proofs.Device.Rebuilding
import WatchLink.Proofs.Device.KeptMenu
import WatchLink.Proofs.Inbox.Accounting
import WatchLink.Proofs.Session.Blindness
import WatchLink.Proofs.Session.Queueing
import WatchLink.Proofs.Link.Sealing
import WatchLink.Proofs.Device.Asking
import WatchLink.Proofs.Session.Sealing
import WatchLink.Proofs.Session.Sheltering
import WatchLink.Proofs.Session.Covering
import WatchLink.Proofs.Link.Making
import WatchLink.Proofs.Session.Disconnecting
import WatchLink.Proofs.Session.Introducing
import WatchLink.Proofs.Session.Heralding
import WatchLink.Proofs.Session.Admitting
import WatchLink.Proofs.Cipher.Accepting
import WatchLink.Proofs.Frame.Verdicts
import WatchLink.Proofs.Handshake.Completing
import WatchLink.Proofs.Reassembler.Resyncing
import WatchLink.Proofs.Reassembler.Recovering
import WatchLink.Proofs.Link.Counting
import WatchLink.Proofs.Device.ChangeLog
import WatchLink.Proofs.Device.Arranging
import WatchLink.Proofs.Calendar.Counting
import WatchLink.Proofs.Link.Bounding
import WatchLink.Proofs.Session.Sizing
import WatchLink.Proofs.Session.Launching
import WatchLink.Proofs.Session.Framing
import WatchLink.Proofs.Session.Fitting
import WatchLink.Proofs.Link.Choosing
import WatchLink.Proofs.Service.Routing
import WatchLink.Proofs.Hex.Spelling
import WatchLink.Proofs.Config.PairingSecret
import WatchLink.Proofs.Device.Vibrations
