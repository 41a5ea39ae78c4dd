import HomeMedia.Catalog
import HomeMedia.Main
import HomeMedia.Rescan
import HomeMedia.Session.Command
import HomeMedia.Timer.Bench
import HomeMedia.Proofs.Refresh.Overtaking
import HomeMedia.Proofs.Refresh.Rearming
import HomeMedia.Proofs.Session.Delivery
import HomeMedia.Proofs.Session.Idle
import HomeMedia.Proofs.Session.Sweeping
import HomeMedia.Proofs.Work.Order
import HomeMedia.Proofs.Work.Stopping
import HomeMedia.Proofs.Session.Gate
import HomeMedia.Proofs.Home.Refusals
import HomeMedia.Proofs.Work.Cancelling
import HomeMedia.Proofs.Session.Renaming
import HomeMedia.Proofs.Session.Disclosure
import HomeMedia.Proofs.Library
import HomeMedia.Proofs.Session.Passwords
import HomeMedia.Proofs.Timer.Ticks
import HomeMedia.Proofs.Timer.Census
import HomeMedia.Proofs.Work.Validity
import HomeMedia.Proofs.Refresh.Arming
import HomeMedia.Proofs.Rescan.Shelving
import HomeMedia.Proofs.Session.Notices
import HomeMedia.Proofs.Session.Expiry
import HomeMedia.Proofs.Catalog.Refreshing
import HomeMedia.Proofs.Settings.Accounts
import HomeMedia.Proofs.Session.Entering
import HomeMedia.Proofs.Work.Endings
import HomeMedia.Proofs.Home.Sleeping
import HomeMedia.Proofs.Refresh.Errands
import HomeMedia.Proofs.Refresh.Stages
import HomeMedia.Proofs.Refresh.Ticking
import HomeMedia.Proofs.Refresh.Pacing
import HomeMedia.Proofs.Settings.Access
import HomeMedia.Proofs.Web.Cors
import HomeMedia.Proofs.Work.Abandoning
import HomeMedia.Proofs.Session.Wording
import HomeMedia.Proofs.Media
import HomeMedia.Proofs.Timer.Firing
