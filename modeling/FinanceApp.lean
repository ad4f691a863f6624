import FinanceApp.Lib.Machine
import FinanceApp.Lib.FirstOccurrences
import FinanceApp.Networking
import FinanceApp.RestDataSource.Merge
import FinanceApp.RestDataSource.Flags
import FinanceApp.RestDataSource.Pages
import FinanceApp.DataSources
import FinanceApp.CollectionView.Controller
import FinanceApp.CollectionView.Rows
import FinanceApp.CollectionView.CurrentSource
import FinanceApp.Lib.Columns
import FinanceApp.LiquidLayout.Prepare
import FinanceApp.LiquidLayout.Geometry
import FinanceApp.LiquidLayout.Reload
import FinanceApp.Persistence.Store
import FinanceApp.Persistence.FinanceAsset
import FinanceApp.Persistence.Balance
import FinanceApp.Watchlist.Taps
import FinanceApp.Watchlist.Screens
import FinanceApp.Lib.KeyedMerge
import FinanceApp.Users.Documents
import FinanceApp.Users.User
import FinanceApp.Login.Attempt
import FinanceApp.Profile.AccountDetails
import FinanceApp.Profile.Photos
import FinanceApp.Users.PersistentStore
import FinanceApp.Users.SaveUser
import FinanceApp.Login.Outcome
import FinanceApp.Host.Session
import FinanceApp.Host.Effects
import FinanceApp.Host.Screens
import FinanceApp.Host.LateAnswers
import FinanceApp.Host.Identity
import FinanceApp.Host.PushTokens
import FinanceApp.Lib.Logs
import FinanceApp.CollectionView.Spinners
import FinanceApp.RestDataSource.FailedLoads
import FinanceApp.LiquidLayout.Traps
import FinanceApp.Users.Friends
import FinanceApp.Search.DataSource
import FinanceApp.Search.Results
import FinanceApp.CollectionView.Reported
import FinanceApp.Lib.FisherYates
import FinanceApp.Search.Shuffle
import FinanceApp.Lib.Binary64
import FinanceApp.Lib.Decimals
import FinanceApp.Trading.Keypad
import FinanceApp.Trading.Credit
import FinanceApp.Lib.Rounding
import FinanceApp.Lib.Expansions
import FinanceApp.Lib.Months
import FinanceApp.Labels.TimeAgo
import FinanceApp.Labels.Abbreviated
import FinanceApp.Dates.Accessors
import FinanceApp.Dates.ChartRanges
import FinanceApp.LiquidLayout.Cards
import FinanceApp.CollectionView.Cells
import FinanceApp.Profile.LogoutEvents
import FinanceApp.Host.Containers
import FinanceApp.Walkthrough.Pages
import FinanceApp.ContactUs.Buttons
import FinanceApp.Lib.Flags
import FinanceApp.Lib.Loops
import FinanceApp.Lib.RoundedSums
import FinanceApp.SnapKit.Attributes
import FinanceApp.SnapKit.Constraint
import FinanceApp.SnapKit.Maker
import FinanceApp.SnapKit.Prepare
import FinanceApp.SnapKit.Geometry
import FinanceApp.SnapKit.Store
import FinanceApp.SnapKit.Installed
import FinanceApp.SnapKit.Evolution
import FinanceApp.SnapKit.Updates
import FinanceApp.Lib.RangeSelection
import FinanceApp.Dates.Months
import FinanceApp.DateRangePicker.Grid
import FinanceApp.DateRangePicker.Selection
import FinanceApp.DateRangePicker.Appearance
import FinanceApp.Lib.Hexadecimals
import FinanceApp.Colors.HexString
import FinanceApp.Charts.BarChart
import FinanceApp.Charts.Positions
import FinanceApp.Charts.BarChartCell
import FinanceApp.Charts.ReusedCells
import FinanceApp.Users.Directory
import FinanceApp.Host.Drawer
import FinanceApp.Host.DrawerTouches
import FinanceApp.Lib.Conserved
import FinanceApp.Images.Loader
import FinanceApp.Images.Requests
import FinanceApp.Images.Cells
