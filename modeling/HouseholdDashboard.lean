import HouseholdDashboard.Backend.Fetch
import HouseholdDashboard.Chart.Ticks
import HouseholdDashboard.Chart.Viewport
import HouseholdDashboard.Gateway.Setup
import HouseholdDashboard.Session.Basic
import HouseholdDashboard.Settings.Basic
import HouseholdDashboard.Time.Zone.Registry
import HouseholdDashboard.Proofs.Gate.History
import HouseholdDashboard.Proofs.Service.Crowd
import HouseholdDashboard.Proofs.Service.Records
import HouseholdDashboard.Proofs.Service.Overlap
import HouseholdDashboard.Proofs.Service.Sequence
import HouseholdDashboard.Proofs.Number.Rounding
import HouseholdDashboard.Proofs.Number.Precision
import HouseholdDashboard.Proofs.Chart.Reach
import HouseholdDashboard.Proofs.Chart.Ticks
import HouseholdDashboard.Proofs.Chart.Interval
import HouseholdDashboard.Proofs.Chart.Lowest
import HouseholdDashboard.Proofs.Chart.Placement
import HouseholdDashboard.Proofs.Chart.Viewport
import HouseholdDashboard.Proofs.Chart.Drag
import HouseholdDashboard.Proofs.Chart.Scaling
import HouseholdDashboard.Proofs.Chart.Widening
import HouseholdDashboard.Proofs.Chart.Turning
import HouseholdDashboard.Proofs.Chart.Pan
import HouseholdDashboard.Proofs.Session.Drawing
import HouseholdDashboard.Proofs.Session.Reachable
import HouseholdDashboard.Proofs.Session.Drag
import HouseholdDashboard.Proofs.Chart.Extent
import HouseholdDashboard.Proofs.Series.Order
import HouseholdDashboard.Proofs.Series.Stable
import HouseholdDashboard.Proofs.Session.Synced
import HouseholdDashboard.Proofs.Session.Overshoot
import HouseholdDashboard.Proofs.Session.Unzoomed
import HouseholdDashboard.Proofs.Query.Persist
import HouseholdDashboard.Proofs.Query.Change
import HouseholdDashboard.Proofs.Gateway.View
import HouseholdDashboard.Proofs.Backend.Snapshot
import HouseholdDashboard.Proofs.Gateway.Change
import HouseholdDashboard.Proofs.Gateway.Paper
import HouseholdDashboard.Proofs.Service.Failing
import HouseholdDashboard.Proofs.Gateway.Status
import HouseholdDashboard.Proofs.Session.Untimed
import HouseholdDashboard.Proofs.Chart.Growth
import HouseholdDashboard.Proofs.Chart.Margin
import HouseholdDashboard.Proofs.Session.Refreshed
import HouseholdDashboard.Proofs.Time.DayText
import HouseholdDashboard.Proofs.Energy.Days
import HouseholdDashboard.Proofs.Series.Devices
import HouseholdDashboard.Proofs.Session.Choosing
import HouseholdDashboard.Proofs.Time.Calendar
import HouseholdDashboard.Proofs.Time.Rfc3339
import HouseholdDashboard.Proofs.Session.Category
import HouseholdDashboard.Proofs.Text.Blank
import HouseholdDashboard.Proofs.Time.LocalText
import HouseholdDashboard.Proofs.Backend.WrittenTime
import HouseholdDashboard.Proofs.Http.Encoding
import HouseholdDashboard.Proofs.Gateway.Outbound
import HouseholdDashboard.Proofs.Query.Cutting
import HouseholdDashboard.Proofs.Chart.Halving
import HouseholdDashboard.Proofs.Session.Filters
